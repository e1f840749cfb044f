/-! Members of a record or an object: values under names, in the order in which the names first
came. -/

namespace ZeroShot.Members

/-- A name keeps its first position and takes its last value. -/
def put (members : List (String × α)) (name : String) (value : α) : List (String × α) :=
  match members with
  | [] => [(name, value)]
  | (n, v) :: rest => if n = name then (n, value) :: rest else (n, v) :: put rest name value

def ofList (members : List (String × α)) : List (String × α) :=
  members.foldl (fun kept (name, value) => put kept name value) []

def get? (members : List (String × α)) (name : String) : Option α :=
  (members.find? fun (n, _) => n = name).map Prod.snd

theorem get?_put_self (members : List (String × α)) (name : String) (value : α) :
    get? (put members name value) name = some value := by
  induction members with
  | nil => simp [put, get?]
  | cons m rest ih =>
    obtain ⟨n, v⟩ := m
    by_cases h : n = name
    · simp [put, get?, h]
    · simpa [put, get?, h] using ih

theorem get?_put_of_ne {members : List (String × α)} {name other : String} (value : α)
    (h : other ≠ name) : get? (put members name value) other = get? members other := by
  induction members with
  | nil => simp [put, get?, Ne.symm h]
  | cons m rest ih =>
    obtain ⟨n, v⟩ := m
    by_cases hn : n = name
    · subst hn; simp [put, get?, Ne.symm h]
    · by_cases ho : n = other
      · subst ho; simp [put, get?, h]
      · simpa [put, get?, hn, ho] using ih

end ZeroShot.Members
