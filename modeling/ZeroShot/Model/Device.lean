import ZeroShot.Error
import ZeroShot.Text.Blank
import ZeroShot.Text.Lowercase

/-! Where a graph runs. There is one kind of device; names of the other kind stand for it too. -/

namespace ZeroShot

inductive Device where
  | cpu
deriving DecidableEq, Repr, Inhabited

namespace Device

def name : Device → String
  | cpu => "CPU"

/-- Names are compared in lower case, without blanks around them. -/
def ofName (text : String) : Except SetupFault Device :=
  let name := Text.lowercase (Text.trim text)
  if name = "cpu" ∨ name = "cuda" ∨ "cuda:".toList.isPrefixOf name.toList then .ok .cpu
  else .error (.unknownDevice name)

end Device

end ZeroShot
