/-!
Keywords are compared without regard to the case of ASCII letters; every other character counts
as written.
-/

namespace Verdict.Text

def folded (text : String) : List Char :=
  text.toList.map Char.toLower

def sameFolded (left right : String) : Bool :=
  folded left == folded right

theorem sameFolded_iff {left right : String} :
    sameFolded left right = true ↔ folded left = folded right := by
  simp [sameFolded]

theorem sameFolded_refl (text : String) : sameFolded text text = true := by
  simp [sameFolded]

end Verdict.Text
