import ResilientHttp.Header
import Mathlib.Data.List.Basic
import Mathlib.Data.List.Forall2
import Mathlib.Data.List.Induction

/-!
# Collecting headers

Two names are one name if they agree letter by letter, where an ASCII letter agrees with its other
case and every other character only with itself (`Text.AgreeUpToCase`). Folding a name picks one of
its spellings, so names agree exactly if their foldings are equal (`Text.fold_eq_fold_iff`).

A collection made from a list keeps an item exactly if it is not the same as an item before it in
the list (`Headers.firsts`). The loop that makes the collection compares each item with what was
kept so far and not with the list. The two come to the same because sameness is an equivalence: what
was dropped is the same as something that was kept, so whatever is the same as an item of the list is
the same as an item that was kept (`Headers.any_same_addAll`).

A collection to which a list is added stays as it is, with all that it holds twice already, and the
first items of the list are appended that are not the same as one of its own
(`Headers.items_addAll`). All other laws of collecting follow from this one
(`Headers.collects_firsts`).
-/

set_option autoImplicit false

namespace ResilientHttp

/-! ## Names up to case -/

namespace Text

/-- Two characters are the same, or one ASCII letter in both cases. -/
def SameLetter (left right : Char) : Prop :=
  left = right ∨ ∃ place < 26,
    (left.toNat = 65 + place ∧ right.toNat = 97 + place) ∨
      (left.toNat = 97 + place ∧ right.toNat = 65 + place)

/-- Two texts agree letter by letter, up to the case of ASCII letters. -/
def AgreeUpToCase (left right : String) : Prop :=
  List.Forall₂ SameLetter left.toList right.toList

/-- Lowering moves the capital letters by 32 places and nothing else. -/
theorem toNat_toLower (character : Char) :
    character.toLower.toNat =
      if 65 ≤ character.toNat ∧ character.toNat ≤ 90 then character.toNat + 32
      else character.toNat := by
  unfold Char.toLower Char.toNat
  have low : 'A'.val.toNat = 65 := rfl
  have high : 'Z'.val.toNat = 90 := rfl
  have small : 'a'.val.toNat = 97 := rfl
  simp only [ge_iff_le, UInt32.le_iff_toNat_le]
  split
  · rename_i upper
    rw [if_pos (by omega)]
    simp only [UInt32.toNat_add, UInt32.toNat_sub]
    omega
  · rw [if_neg (by omega)]

theorem toLower_eq_toLower_iff (left right : Char) :
    left.toLower = right.toLower ↔ SameLetter left right := by
  rw [← Char.toNat_inj, toNat_toLower, toNat_toLower]
  constructor
  · intro same
    by_cases equal : left.toNat = right.toNat
    · exact .inl (Char.toNat_inj.1 equal)
    · right
      split at same <;> split at same
      · omega
      · exact ⟨left.toNat - 65, by omega, .inl ⟨by omega, by omega⟩⟩
      · exact ⟨right.toNat - 65, by omega, .inr ⟨by omega, by omega⟩⟩
      · omega
  · rintro (rfl | ⟨place, small, ⟨one, two⟩ | ⟨one, two⟩⟩)
    · rfl
    · rw [if_pos (by omega), if_neg (by omega)]
      omega
    · rw [if_neg (by omega), if_pos (by omega)]
      omega

/-- Texts have one folding exactly if they agree up to the case of ASCII letters. -/
theorem fold_eq_fold_iff (left right : String) :
    fold left = fold right ↔ AgreeUpToCase left right := by
  rw [← String.toList_inj, fold_toList, fold_toList, ← List.forall₂_eq_eq_eq,
    List.forall₂_map_left_iff, List.forall₂_map_right_iff, AgreeUpToCase]
  simp only [toLower_eq_toLower_iff]

/-- Folding a text does not compute in the kernel; lowering its characters does. -/
theorem sameFold_eq (left right : String) :
    sameFold left right =
      (left.toList.map Char.toLower == right.toList.map Char.toLower) := by
  rw [Bool.eq_iff_iff, sameFold_iff, beq_iff_eq, ← String.toList_inj, fold_toList, fold_toList]

end Text

/-- Headers are the same if their names agree up to case and their values are equal. -/
theorem Header.same_iff_agree (left right : Header) :
    left.same right = true ↔
      Text.AgreeUpToCase left.name right.name ∧ left.value = right.value := by
  rw [same_iff, Text.fold_eq_fold_iff]

namespace Headers

/-! ## What is held after a list was added -/

/-- Items that are the same are the same as the same items. -/
theorem any_same_congr {left right : Header} (same : left.same right = true)
    (items : List Header) : items.any (·.same left) = items.any (·.same right) := by
  rw [Bool.eq_iff_iff, List.any_eq_true, List.any_eq_true]
  constructor
  · rintro ⟨item, member, found⟩
    exact ⟨item, member, Header.same_trans found same⟩
  · rintro ⟨item, member, found⟩
    exact ⟨item, member, Header.same_trans found (Header.same_comm left right ▸ same)⟩

/-- What is the same as an item of a collection or as the one that is added is the same as an item
of the result. -/
theorem any_same_add (headers : Headers) (header other : Header) :
    (headers.add header).items.any (·.same other) =
      (headers.items.any (·.same other) || header.same other) := by
  by_cases held : headers.items.any (·.same header) = true
  · rw [add_of_mem held]
    cases same : header.same other with
    | false => simp
    | true => rw [← any_same_congr same, held, Bool.or_true]
  · rw [items_add_of_not_mem (by simpa using held), List.any_append, List.any_cons, List.any_nil,
      Bool.or_false]

theorem any_same_addAll (headers : Headers) (items : List Header) (other : Header) :
    (headers.addAll items).items.any (·.same other) =
      (headers.items.any (·.same other) || items.any (·.same other)) := by
  induction items generalizing headers with
  | nil => simp [addAll_nil]
  | cons header rest ih =>
      rw [addAll_cons, ih, any_same_add, List.any_cons, Bool.or_assoc]

theorem addAll_concat (headers : Headers) (items : List Header) (last : Header) :
    headers.addAll (items ++ [last]) = (headers.addAll items).add last := by
  rw [addAll_append]
  rfl

/-! ## The items of a collection -/

/-- The items of a list that are the same neither as a given item nor as one before them. -/
def news (held items : List Header) : List Header :=
  (items.zipIdx.filter fun entry =>
    !(held ++ items.take entry.2).any (·.same entry.1)).map Prod.fst

/-- The items of a list that are not the same as one before them. -/
def firsts (items : List Header) : List Header :=
  (items.zipIdx.filter fun entry => !(items.take entry.2).any (·.same entry.1)).map Prod.fst

/-- The last item of a list is new if it is not the same as a given item or as another of the
list. -/
theorem news_concat (held items : List Header) (last : Header) :
    news held (items ++ [last]) =
      news held items ++ if (held ++ items).any (·.same last) then [] else [last] := by
  unfold news
  rw [List.zipIdx_append, List.filter_append, List.map_append]
  congr 1
  · refine congrArg _ (List.filter_congr fun entry member => ?_)
    have place : entry.2 < items.length := by
      simpa using (List.mem_zipIdx (x := entry.1) (i := entry.2) member).2.1
    rw [List.take_append_of_le_length (Nat.le_of_lt place)]
  · simp only [List.zipIdx_cons, List.zipIdx_nil, Nat.zero_add, List.filter_cons, List.filter_nil,
      List.take_left']
    cases (held ++ items).any (·.same last) <;> simp

/-- A collection to which a list is added keeps its items as they are, and the new ones follow. -/
theorem items_addAll_eq_append_news (headers : Headers) (items : List Header) :
    (headers.addAll items).items = headers.items ++ news headers.items items := by
  induction items using List.reverseRecOn with
  | nil => simp [addAll_nil, news]
  | append_singleton front last ih =>
      have held : (headers.addAll front).items.any (·.same last) =
          (headers.items ++ front).any (·.same last) := by
        rw [any_same_addAll, List.any_append]
      rw [addAll_concat, news_concat, ← held, ← List.append_assoc, ← ih]
      cases there : (headers.addAll front).items.any (·.same last) with
      | true => simp [add_of_mem there]
      | false => simp [items_add_of_not_mem there]

/-- The items of a collection made from a list are the first ones of the list. -/
theorem items_ofList (items : List Header) : (ofList items).items = firsts items :=
  (items_addAll_eq_append_news empty items).trans (List.nil_append _)

/-- The new items of a list are those of its first ones that are not the same as a given item. -/
theorem news_eq_filter_firsts (held items : List Header) :
    news held items = (firsts items).filter fun item => !held.any (·.same item) := by
  unfold news firsts
  rw [List.filter_map, List.filter_filter]
  refine congrArg _ (List.filter_congr fun entry _ => ?_)
  rw [List.any_append, Bool.not_or, Function.comp_apply]

/-- **To add a list is to append those of its first items that are not held.** -/
theorem items_addAll (headers : Headers) (items : List Header) :
    (headers.addAll items).items =
      headers.items ++ (ofList items).items.filter fun item => !headers.items.any (·.same item) := by
  rw [items_addAll_eq_append_news, news_eq_filter_firsts, items_ofList]

/-! ## Laws of collecting -/

theorem firsts_sublist (items : List Header) : (firsts items).Sublist items := by
  have all : items.zipIdx.map Prod.fst = items := List.zipIdx_map_fst 0 items
  conv_rhs => rw [← all]
  exact List.filter_sublist.map Prod.fst

/-- No two items of a collection to which a header is added are the same, if there were none. -/
theorem pairwise_add {headers : Headers}
    (apart : headers.items.Pairwise fun left right => left.same right = false) (header : Header) :
    (headers.add header).items.Pairwise fun left right => left.same right = false := by
  cases held : headers.items.any (·.same header) with
  | true => rwa [add_of_mem held]
  | false =>
      rw [items_add_of_not_mem held, List.pairwise_append]
      refine ⟨apart, List.pairwise_singleton _ _, fun item member other new => ?_⟩
      obtain rfl := List.mem_singleton.1 new
      simpa using List.any_eq_false.1 held item member

theorem pairwise_addAll {headers : Headers}
    (apart : headers.items.Pairwise fun left right => left.same right = false)
    (items : List Header) :
    (headers.addAll items).items.Pairwise fun left right => left.same right = false := by
  induction items generalizing headers with
  | nil => exact apart
  | cons header rest ih => exact ih (pairwise_add apart header)

/-- A collection made from a list is made from its own items. -/
theorem ofList_items_of_pairwise {headers : Headers}
    (apart : headers.items.Pairwise fun left right => left.same right = false) :
    ofList headers.items = headers := by
  obtain ⟨items⟩ := headers
  induction items using List.reverseRecOn with
  | nil => rfl
  | append_singleton front last ih =>
      obtain ⟨before, _, new⟩ := List.pairwise_append.1 apart
      have fresh : front.any (·.same last) = false :=
        List.any_eq_false.2 fun item member => by simp [new item member]
      change empty.addAll (front ++ [last]) = _
      rw [addAll_concat]
      change (ofList front).add last = _
      rw [ih before, add, if_neg (by simp [fresh])]

/-- What a collection made from a list has to do with the list. -/
structure Collected (items kept : List Header) : Prop where
  /-- An item is kept exactly if no item before it is the same. -/
  first : kept = firsts items
  sublist : kept.Sublist items
  apart : kept.Pairwise fun left right => left.same right = false
  represented : ∀ item ∈ items, ∃ other ∈ kept, item.same other = true

theorem collected_ofList (items : List Header) : Collected items (ofList items).items where
  first := items_ofList items
  sublist := items_ofList items ▸ firsts_sublist items
  apart := pairwise_addAll List.Pairwise.nil items
  represented := fun item member => by
    have held : (ofList items).items.any (·.same item) = true := by
      rw [ofList, any_same_addAll]
      exact Bool.or_eq_true_iff.2
        (.inr (List.any_eq_true.2 ⟨item, member, Header.same_refl item⟩))
    obtain ⟨other, kept, same⟩ := List.any_eq_true.1 held
    exact ⟨other, kept, Header.same_comm other item ▸ same⟩

/-- **Collecting keeps the first of all items that are the same**, where items are the same if their
names agree up to the case of ASCII letters and their values are equal.

* The kept items are those of the list, in order and as they are, that are not the same as one before
  them. So no two of them are the same, every item of the list is the same as one of them, and
  collecting them again changes nothing.
* Any collection to which the list is added keeps its own items in front, whatever they are, and gets
  those of the kept items that are not the same as one of its own.
* To collect two lists, one after the other, is to collect the first and add the second. -/
theorem collects_firsts (items : List Header) :
    (∀ left right : Header, left.same right = true ↔
        Text.AgreeUpToCase left.name right.name ∧ left.value = right.value) ∧
      Collected items (ofList items).items ∧
      ofList (ofList items).items = ofList items ∧
      (∀ headers : Headers, (headers.addAll items).items =
        headers.items ++
          (ofList items).items.filter fun item => !headers.items.any (·.same item)) ∧
      ∀ more : List Header, ofList (items ++ more) = (ofList items).addAll more :=
  ⟨Header.same_iff_agree, collected_ofList items,
    ofList_items_of_pairwise (collected_ofList items).apart,
    fun headers => items_addAll headers items, addAll_append empty items⟩

/-- Two items of one name in three spellings. -/
def respelled : List Header :=
  [⟨"Accept", "text/html"⟩, ⟨"accept", "text/html"⟩, ⟨"Accept", "text/plain"⟩,
    ⟨"ACCEPT", "text/html"⟩]

/-- The first spelling stays. A collection that holds the item twice still does when the list is
added, and gets the other item only. -/
theorem collects_firsts_respelled :
    (ofList respelled).items = [⟨"Accept", "text/html"⟩, ⟨"Accept", "text/plain"⟩] ∧
      ((Headers.mk [⟨"accept", "text/html"⟩, ⟨"accept", "text/html"⟩]).addAll respelled).items =
        [⟨"accept", "text/html"⟩, ⟨"accept", "text/html"⟩, ⟨"Accept", "text/plain"⟩] ∧
      ∃ other ∈ (ofList respelled).items, Header.same ⟨"ACCEPT", "text/html"⟩ other = true := by
  obtain ⟨-, collected, -, added, -⟩ := collects_firsts respelled
  have kept : (ofList respelled).items = [⟨"Accept", "text/html"⟩, ⟨"Accept", "text/plain"⟩] := by
    rw [collected.first]
    simp only [firsts, Header.same, Header.hasName, Text.sameFold_eq]
    decide +kernel
  refine ⟨kept, ?_, collected.represented _ (by simp [respelled])⟩
  rw [added, kept]
  simp only [Header.same, Header.hasName, Text.sameFold_eq]
  decide +kernel

end Headers

end ResilientHttp
