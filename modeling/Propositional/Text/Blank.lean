import Propositional.Text.Ranges

namespace Propositional.Text

/-- The characters with the Unicode property White_Space. -/
def blankRanges : Ranges :=
  [(0x9, 0xD), (0x20, 0x20), (0x85, 0x85), (0xA0, 0xA0), (0x1680, 0x1680), (0x2000, 0x200A),
   (0x2028, 0x2029), (0x202F, 0x202F), (0x205F, 0x205F), (0x3000, 0x3000)]

def isBlank (c : Char) : Bool :=
  blankRanges.contains c.toNat

/-- A possibly empty text made of blanks only. -/
def AllBlank (text : List Char) : Prop :=
  ∀ c ∈ text, isBlank c = true

instance (text : List Char) : Decidable (AllBlank text) :=
  List.decidableBAll (fun c => isBlank c = true) text

theorem allBlank_nil : AllBlank [] :=
  fun _ hc => nomatch hc

theorem allBlank_append {gap gap' : List Char} (h : AllBlank gap) (h' : AllBlank gap') :
    AllBlank (gap ++ gap') :=
  List.forall_mem_append.mpr ⟨h, h'⟩

end Propositional.Text
