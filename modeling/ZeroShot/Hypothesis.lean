/-! A hypothesis is a template with a candidate label put in place of its first placeholder. -/

namespace ZeroShot.Hypothesis

def splitPlaceholder : List Char → Option (List Char × List Char)
  | '{' :: '}' :: rest => some ([], rest)
  | [] => none
  | c :: rest => (splitPlaceholder rest).map fun (before, after) => (c :: before, after)

/-- Later placeholders stay as text, and a template without one has the candidate appended. -/
def fill (template candidate : String) : String :=
  match splitPlaceholder template.toList with
  | some (before, after) => String.ofList (before ++ candidate.toList ++ after)
  | none => template ++ candidate

def defaultTemplate : String := "This example is \x7b\x7d."

theorem splitPlaceholder_eq_some {template before after : List Char}
    (h : splitPlaceholder template = some (before, after)) :
    template = before ++ '{' :: '}' :: after := by
  fun_induction splitPlaceholder template generalizing before with
  | case1 rest => simp_all
  | case2 => simp at h
  | case3 c rest _ ih =>
    obtain ⟨⟨b, a⟩, hb, hab⟩ := Option.map_eq_some_iff.1 h
    simp only [Prod.mk.injEq] at hab
    obtain ⟨rfl, rfl⟩ := hab
    simp [ih hb]

end ZeroShot.Hypothesis
