import Mathlib.Data.Finmap

/-!
Folds in which every step touches the part of the state that belongs to one
key. Such a fold can be read one key at a time: what it leaves under a key is
the fold of the local steps over the elements with that key. A fold that gives
up when the state outgrows a limit is the plain fold with one check at the
end.
-/

namespace Merovingian.KeyedFold

open List

universe u v w x

variable {σ : Type u} {κ : Type v} {ε : Type w} {α : Type x} [DecidableEq κ]

/-- `step` acts on the view of the element's own key as `localStep` and leaves
the view of every other key alone. -/
structure ActsByKey (view : σ → κ → α) (key : ε → κ) (step : σ → ε → σ)
    (localStep : α → ε → α) : Prop where
  own : ∀ state element,
    view (step state element) (key element) = localStep (view state (key element)) element
  other : ∀ state element k, k ≠ key element → view (step state element) k = view state k

def withKey (key : ε → κ) (k : κ) (elements : List ε) : List ε :=
  elements.filter fun element => key element = k

variable (key : ε → κ)

@[simp] theorem withKey_nil (k : κ) : withKey key k [] = [] := rfl

theorem withKey_append (k : κ) (first second : List ε) :
    withKey key k (first ++ second) = withKey key k first ++ withKey key k second :=
  filter_append ..

theorem mem_withKey {key : ε → κ} {k : κ} {elements : List ε} {element : ε} :
    element ∈ withKey key k elements ↔ element ∈ elements ∧ key element = k := by
  simp [withKey]

theorem withKey_eq_toList {key : ε → κ} {elements : List ε} (hnodup : (elements.map key).Nodup)
    (k : κ) : withKey key k elements = (elements.find? fun element => key element = k).toList := by
  induction elements with
  | nil => rfl
  | cons head tail ih =>
    obtain ⟨hhead, htail⟩ := nodup_cons.mp hnodup
    by_cases hkey : key head = k
    · have hnone : withKey key k tail = [] := by
        refine filter_eq_nil_iff.mpr fun element helement => ?_
        simp only [decide_eq_true_eq]
        intro hsame
        exact hhead (hkey ▸ hsame ▸ mem_map_of_mem helement)
      rw [withKey] at hnone
      simp [withKey, hkey, hnone]
    · have hih := ih htail
      rw [withKey] at hih
      simp [withKey, hkey, hih]

theorem ActsByKey.view_foldl {view : σ → κ → α} {key : ε → κ} {step : σ → ε → σ}
    {localStep : α → ε → α} (hacts : ActsByKey view key step localStep) (elements : List ε)
    (state : σ) (k : κ) :
    view (elements.foldl step state) k =
      (withKey key k elements).foldl localStep (view state k) := by
  induction elements generalizing state with
  | nil => rfl
  | cons head tail ih =>
    rw [foldl_cons, ih]
    by_cases hkey : key head = k
    · subst hkey
      simp [withKey, hacts.own]
    · rw [hacts.other state head k (Ne.symm hkey)]
      simp [withKey, hkey]

theorem foldl_overwrite {β : Type*} (value : ε → β) (elements : List ε) (start : Option β) :
    elements.foldl (fun _ element => some (value element)) start =
      (elements.getLast?.map value).or start := by
  induction elements using reverseRecOn with
  | nil => rfl
  | append_singleton front last _ => simp

/-- A field that the selected elements overwrite and the others leave alone. -/
theorem field_foldl {β : Type*} {field : σ → β} {step : σ → ε → σ} (selects : ε → Bool)
    (value : ε → β)
    (hstep : ∀ state element,
      field (step state element) = if selects element then value element else field state)
    (elements : List ε) (state : σ) :
    field (elements.foldl step state) =
      ((elements.filter selects).getLast?.map value).getD (field state) := by
  induction elements using reverseRecOn with
  | nil => rfl
  | append_singleton front last ih =>
    rw [foldl_append, foldl_cons, foldl_nil, hstep, filter_append]
    cases hselects : selects last with
    | true => simp [hselects]
    | false => simp [hselects, ih]

/-- Writing each element under its own key: the last element with the key wins. -/
theorem lookup_foldl_insert {β : Type*} (value : ε → β) (elements : List ε)
    (map : Finmap fun _ : κ => β) (k : κ) :
    (elements.foldl (fun map element => map.insert (key element) (value element))
        map).lookup k =
      ((withKey key k elements).getLast?.map value).or (map.lookup k) := by
  have hacts : ActsByKey (fun (map : Finmap fun _ : κ => β) k => map.lookup k) key
      (fun map element => map.insert (key element) (value element))
      (fun _ element => some (value element)) :=
    ⟨fun state _ => Finmap.lookup_insert state,
      fun state _ _ hk => Finmap.lookup_insert_of_ne state hk⟩
  rw [hacts.view_foldl elements map k, foldl_overwrite]

/-- Overwrites the first row of a table that has the new row's key, or appends
the row. -/
def putRow (key : ε → κ) (row : ε) : List ε → List ε
  | [] => [row]
  | current :: rest =>
    if key current = key row then row :: rest else current :: putRow key row rest

def rowAt (key : ε → κ) (rows : List ε) (k : κ) : Option ε :=
  rows.find? fun row => key row = k

theorem rowAt_cons (row : ε) (rows : List ε) (k : κ) :
    rowAt key (row :: rows) k = if key row = k then some row else rowAt key rows k := by
  by_cases h : key row = k <;> simp [rowAt, h]

/-- What is found by its key, if only the new row has the key of one that it is like. -/
theorem find?_putRow {row : ε} {rows : List ε} {wanted : ε → Bool}
    (hkey : ∀ row other, key row = key other → wanted row = wanted other)
    (hsame : wanted row = true → ∀ old ∈ rows, wanted old = true → key old = key row) :
    (putRow key row rows).find? wanted =
      if wanted row = true then some row else rows.find? wanted := by
  induction rows with
  | nil => cases hrow : wanted row <;> simp [putRow, hrow]
  | cons current rest ih =>
    have ih := ih fun hrow old hold => hsame hrow old (mem_cons_of_mem _ hold)
    rw [putRow]
    split_ifs with heq hrow hrow
    · rw [find?_cons_of_pos hrow]
    · rw [find?_cons_of_neg hrow, find?_cons_of_neg (hkey _ _ heq ▸ hrow)]
    · have hcurrent : ¬ wanted current = true := fun hcurrent =>
        heq (hsame hrow current mem_cons_self hcurrent)
      rw [find?_cons_of_neg hcurrent, ih, if_pos hrow]
    · simp [find?_cons, ih, hrow]

theorem rowAt_putRow (row : ε) (rows : List ε) (k : κ) :
    rowAt key (putRow key row rows) k = if key row = k then some row else rowAt key rows k := by
  simpa [rowAt] using find?_putRow key (fun row other heq => congrArg (decide <| · = k) heq)
    fun hrow old _ hold => (of_decide_eq_true hold).trans (of_decide_eq_true hrow).symm

theorem putRow_actsByKey :
    ActsByKey (rowAt key) key (fun rows row => putRow key row rows) (fun _ row => some row) where
  own rows row := by rw [rowAt_putRow, if_pos rfl]
  other rows row k hk := by rw [rowAt_putRow, if_neg hk.symm]

/-- A loop that stops as soon as the state exceeds a limit, where no step leads
back below it. -/
theorem foldlM_eq_of_limit (exceeds : σ → Prop) [DecidablePred exceeds] (step : σ → ε → σ)
    {attempt : σ → ε → Option σ}
    (hattempt : ∀ state element, ¬exceeds state → attempt state element =
        if exceeds (step state element) then none else some (step state element))
    (hexceeds : ∀ state element, exceeds state → exceeds (step state element)) (elements : List ε)
    (state : σ) (hstart : ¬exceeds state) :
    elements.foldlM attempt state =
      if exceeds (elements.foldl step state) then none else some (elements.foldl step state) := by
  induction elements generalizing state with
  | nil => simp [hstart]
  | cons head tail ih =>
    rw [foldlM_cons, foldl_cons, hattempt state head hstart]
    by_cases hnext : exceeds (step state head)
    · have hstays : exceeds (tail.foldl step (step state head)) :=
        foldlRecOn tail step hnext fun state h element _ => hexceeds state element h
      simp [hnext, hstays]
    · simpa [hnext] using ih _ hnext

end Merovingian.KeyedFold
