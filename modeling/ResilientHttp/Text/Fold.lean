/-!
# ASCII case folding

Header names, URL schemes and host names are compared without regard to the case of the letters
`A` to `Z`. Two texts agree in this sense exactly when their foldings are equal, where folding
replaces each of those letters by its lower-case form and leaves every other character alone; a
letter outside ASCII keeps its case (`fold_toList`).

Folding is idempotent (`fold_fold`), so a folded text is a canonical representative of its class.
-/

set_option autoImplicit false

namespace ResilientHttp.Text

/-- The text with `A` to `Z` in lower case and every other character unchanged. -/
def fold (text : String) : String :=
  text.map Char.toLower

/-- Equality up to the case of ASCII letters. -/
def sameFold (left right : String) : Bool :=
  fold left == fold right

theorem fold_toList (text : String) : (fold text).toList = text.toList.map Char.toLower :=
  String.toList_map

/-- Lowering a character twice is lowering it once. -/
theorem toLower_toLower (character : Char) : character.toLower.toLower = character.toLower := by
  unfold Char.toLower
  split
  · rename_i upper
    rw [dif_neg]
    simp only [ge_iff_le, UInt32.le_iff_toNat_le, UInt32.toNat_add, UInt32.toNat_sub] at upper ⊢
    have low : 'A'.val.toNat = 65 := rfl
    have high : 'Z'.val.toNat = 90 := rfl
    have small : 'a'.val.toNat = 97 := rfl
    omega
  · rfl

/-- A folded text is its own folding. -/
theorem fold_fold (text : String) : fold (fold text) = fold text := by
  apply String.toList_inj.1
  simp only [fold_toList, List.map_map]
  exact List.map_congr_left fun character _ => toLower_toLower character

theorem sameFold_iff (left right : String) :
    sameFold left right = true ↔ fold left = fold right := by
  simp [sameFold]

theorem sameFold_refl (text : String) : sameFold text text = true := by
  simp [sameFold]

end ResilientHttp.Text
