import Mathlib.Data.List.Basic

/-!
# Python dicts

A `dict` with string keys is its items in insertion order, each key once (`PyDict`).
`d[key] = value` keeps a present key in its place and appends a new one (`assignItem`),
which is what `dict.setdefault` followed by assignments, `dict.update` and the loops of
`_prepare_form_data` and `_build_prefixed_form_data` rely on.  A run of assignments
leaves under each key the value of the last item filed under it (`PyDict.get?_foldl`).
-/

namespace Robumba.Browser

section Dicts

variable {α : Type}

/-- `d[key] = value` on the items of a dict: a present key keeps its place and takes the
value, a new key goes last. -/
def assignItem : List (String × α) → String → α → List (String × α)
  | [], key, value => [(key, value)]
  | item :: rest, key, value =>
    if item.1 = key then (key, value) :: rest else item :: assignItem rest key value

theorem lookup_cons_pair (k k' : String) (v : α) (rest : List (String × α)) :
    ((k', v) :: rest).lookup k = if k = k' then some v else rest.lookup k := by
  rw [List.lookup_cons]
  by_cases hk : k = k'
  · simp [hk]
  · rw [if_neg hk, show (k == k') = false by simpa using hk]

theorem lookup_assignItem (items : List (String × α)) (key : String) (value : α) (k : String) :
    (assignItem items key value).lookup k = if k = key then some value else items.lookup k := by
  induction items with
  | nil => simp [assignItem, lookup_cons_pair]
  | cons item rest ih =>
    obtain ⟨k', v'⟩ := item
    by_cases hk' : k' = key
    · subst hk'
      by_cases hk : k = k' <;> simp [assignItem, lookup_cons_pair, hk]
    · by_cases hk : k = k' <;> simp [assignItem, lookup_cons_pair, hk, hk', ih, Ne.symm hk']

theorem keys_assignItem (items : List (String × α)) (key : String) (value : α) :
    (assignItem items key value).map Prod.fst =
      if key ∈ items.map Prod.fst then items.map Prod.fst else items.map Prod.fst ++ [key] := by
  induction items with
  | nil => rfl
  | cons item rest ih =>
    by_cases hk : item.1 = key
    · simp [assignItem, hk]
    · simp only [assignItem, hk, if_false, List.map_cons, ih, List.mem_cons, Ne.symm hk,
        false_or]
      split <;> rfl

/-- With distinct keys, an item reads back under its key. -/
theorem lookup_of_mem {items : List (String × α)} (hnodup : (items.map Prod.fst).Nodup)
    {k : String} {v : α} (h : (k, v) ∈ items) : items.lookup k = some v := by
  induction items with
  | nil => cases h
  | cons item rest ih =>
    obtain ⟨k', v'⟩ := item
    obtain ⟨hfresh, hrest⟩ := List.nodup_cons.mp hnodup
    rw [lookup_cons_pair]
    rcases List.mem_cons.mp h with heq | hmem
    · cases heq
      exact if_pos rfl
    · have hk : k ≠ k' := fun hk => hfresh (List.mem_map.mpr ⟨_, hmem, hk⟩)
      rw [if_neg hk, ih hrest hmem]

theorem lookup_isSome_iff (items : List (String × α)) (k : String) :
    (items.lookup k).isSome ↔ k ∈ items.map Prod.fst := by
  induction items with
  | nil => simp
  | cons item rest ih =>
    obtain ⟨k', v'⟩ := item
    rw [lookup_cons_pair]
    by_cases hk : k = k' <;> simp [hk, ih]

/-- A first-match search whose predicate holds exactly on the items of one key finds that
key's value. -/
theorem find?_eq_lookup_of_key (items : List (String × α)) (p : String × α → Bool)
    (key : String) (hp : ∀ item ∈ items, p item = true ↔ item.1 = key) :
    (items.find? p).map Prod.snd = items.lookup key := by
  induction items with
  | nil => rfl
  | cons item rest ih =>
    obtain ⟨k, v⟩ := item
    have hitem := hp _ (List.mem_cons_self _ _)
    rw [List.find?_cons, lookup_cons_pair]
    by_cases hk : k = key
    · rw [hitem.mpr hk, if_pos hk.symm]
      rfl
    · have hfalse : p (k, v) = false := Bool.eq_false_iff.mpr fun h => hk (hitem.mp h)
      rw [hfalse, if_neg (Ne.symm hk)]
      exact ih fun item hmem => hp item (List.mem_cons_of_mem _ hmem)

/-- A Python `dict` with string keys: its items in insertion order, each key once. -/
structure PyDict (α : Type) where
  items : List (String × α)
  nodup : (items.map Prod.fst).Nodup

namespace PyDict

/-- `{}`. -/
def empty : PyDict α := ⟨[], List.nodup_nil⟩

/-- `d.get(key)`. -/
def get? (d : PyDict α) (key : String) : Option α := d.items.lookup key

/-- `d[key] = value`. -/
def setItem (d : PyDict α) (key : String) (value : α) : PyDict α :=
  ⟨assignItem d.items key value, by
    rw [keys_assignItem]
    split
    · exact d.nodup
    · rename_i hfresh
      exact List.pairwise_append.mpr ⟨d.nodup, List.pairwise_singleton _ _,
        fun a ha b hb => by rw [List.mem_singleton.mp hb]; exact fun h => hfresh (h ▸ ha)⟩⟩

/-- `d.update(other)`. -/
def update (d other : PyDict α) : PyDict α :=
  other.items.foldl (fun d item => d.setItem item.1 item.2) d

instance [DecidableEq α] : DecidableEq (PyDict α) := fun a b =>
  decidable_of_iff (a.items = b.items)
    ⟨fun h => by cases a; cases b; cases h; rfl, fun h => h ▸ rfl⟩

@[simp] theorem get?_empty (k : String) : (empty : PyDict α).get? k = none := rfl

@[simp] theorem get?_setItem (d : PyDict α) (key : String) (value : α) (k : String) :
    (d.setItem key value).get? k = if k = key then some value else d.get? k :=
  lookup_assignItem d.items key value k

theorem get?_of_mem {d : PyDict α} {k : String} {v : α} (h : (k, v) ∈ d.items) :
    d.get? k = some v :=
  lookup_of_mem d.nodup h

/-- Setting a present key keeps the keys and their order. -/
theorem keys_setItem_of_mem (d : PyDict α) {key : String} (value : α)
    (h : key ∈ d.items.map Prod.fst) :
    (d.setItem key value).items.map Prod.fst = d.items.map Prod.fst :=
  (keys_assignItem d.items key value).trans (if_pos h)

theorem items_ne_nil_of_get? {d : PyDict α} {k : String} {v : α} (h : d.get? k = some v) :
    d.items ≠ [] :=
  fun hnil => by simp [get?, hnil] at h

/-- Setting items one after another leaves under each key the value of the last item
filed under it, and the old value where none is. -/
theorem get?_foldl {β : Type} (step : PyDict α → β → PyDict α) (files : β → String → Bool)
    (value : β → α)
    (hstep : ∀ d item k, (step d item).get? k = if files item k then some (value item) else d.get? k)
    (items : List β) (d : PyDict α) (k : String) :
    (items.foldl step d).get? k =
      (((items.filter (files · k)).getLast?).map value).or (d.get? k) := by
  induction items generalizing d with
  | nil => rfl
  | cons item rest ih =>
    rw [List.foldl_cons, ih, hstep, List.filter_cons]
    cases hfiles : files item k <;>
      cases hlast : (rest.filter (files · k)).getLast? <;> simp [hlast, List.getLast?_cons]

end PyDict

/-- With distinct keys, the last item of a key is its only one. -/
theorem getLast?_filter_key (items : List (String × α)) (hnodup : (items.map Prod.fst).Nodup)
    (k : String) :
    ((items.filter fun item => item.1 = k).getLast?).map Prod.snd = items.lookup k := by
  induction items with
  | nil => rfl
  | cons item rest ih =>
    obtain ⟨k', v'⟩ := item
    have ⟨hfresh, hrest⟩ := List.nodup_cons.mp hnodup
    by_cases hk : k' = k
    · subst hk
      have hnone : rest.filter (fun item => item.1 = k') = [] :=
        List.filter_eq_nil_iff.mpr fun item hitem heq =>
          hfresh (List.mem_map.mpr ⟨item, hitem, of_decide_eq_true heq⟩)
      rw [List.filter_cons, if_pos (by simp), hnone, lookup_cons_pair, if_pos rfl]
      rfl
    · rw [List.filter_cons, if_neg (by simpa using hk), lookup_cons_pair, if_neg (Ne.symm hk),
        ih hrest]

/-- `d.update(other)` reads a key from `other` where it has one, and from `d` elsewhere. -/
theorem PyDict.get?_update (d other : PyDict α) (k : String) :
    (d.update other).get? k = (other.get? k).or (d.get? k) := by
  have hstep : ∀ (d : PyDict α) (item : String × α) k, (d.setItem item.1 item.2).get? k =
      if decide (item.1 = k) then some item.2 else d.get? k := fun d item k => by
    rw [PyDict.get?_setItem]
    by_cases hk : item.1 = k <;> simp [hk, Ne.symm]
  rw [PyDict.update, PyDict.get?_foldl _ _ Prod.snd hstep, getLast?_filter_key _ other.nodup]
  rfl

end Dicts

end Robumba.Browser
