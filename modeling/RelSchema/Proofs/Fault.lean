import Mathlib.Data.List.Forall2

namespace RelSchema

variable {ε ε' α β : Type}

def fault? : Except ε α → Option ε
  | .error e => some e
  | .ok _ => none

@[simp] theorem fault?_ok (a : α) : fault? (.ok a : Except ε α) = none := rfl

@[simp] theorem fault?_pure (a : α) : fault? (pure a : Except ε α) = none := rfl

@[simp] theorem fault?_error (e : ε) : fault? (.error e : Except ε α) = some e := rfl

theorem fault?_eq_some_iff {x : Except ε α} {e : ε} : fault? x = some e ↔ x = .error e := by
  cases x <;> simp

/-- A computation that is run to the end shows what it comes to. -/
theorem exists_eq_ok_of_any {x : Except ε α} {p : α → Prop} [DecidablePred p]
    (h : x.toOption.any (fun a => decide (p a)) = true) : ∃ a, x = .ok a ∧ p a := by
  cases x with
  | error => cases h
  | ok a => exact ⟨a, rfl, of_decide_eq_true h⟩

theorem fault?_eq_none_iff {x : Except ε α} : fault? x = none ↔ ∃ a, x = .ok a := by
  cases x <;> simp

@[simp] theorem fault?_mapError (f : ε → ε') (x : Except ε α) :
    fault? (x.mapError f) = (fault? x).map f := by
  cases x <;> rfl

@[simp] theorem fault?_map (f : α → β) (x : Except ε α) : fault? (x.map f) = fault? x := by
  cases x <;> rfl

@[simp] theorem mapError_eq_ok_iff {f : ε → ε'} {x : Except ε α} {a : α} :
    x.mapError f = .ok a ↔ x = .ok a := by
  cases x <;> simp [Except.mapError]

theorem map_eq_ok_iff {f : α → β} {x : Except ε α} {b : β} :
    x.map f = .ok b ↔ ∃ a, x = .ok a ∧ f a = b := by
  cases x <;> simp [Except.map]

theorem exists_eq_ok_of_eq_map {f : α → β} {x : Except ε α} {y : Except ε β} (h : y = x.map f)
    (hy : ∃ b, y = .ok b) : ∃ a, x = .ok a ∧ y = .ok (f a) := by
  obtain ⟨b, hb⟩ := hy
  obtain ⟨a, ha, hab⟩ := map_eq_ok_iff.1 (h.symm.trans hb)
  exact ⟨a, ha, hab ▸ hb⟩

theorem bind_eq_ok_iff {x : Except ε α} {f : α → Except ε β} {b : β} :
    x >>= f = .ok b ↔ ∃ a, x = .ok a ∧ f a = .ok b := by
  constructor
  · intro h
    cases x with
    | error => cases h
    | ok a => exact ⟨a, rfl, h⟩
  · rintro ⟨a, rfl, h⟩
    exact h

theorem fault?_bind {x : Except ε α} {f : α → Except ε β} {e : Option ε}
    (h : ∀ a, x = .ok a → fault? (f a) = e) : fault? (x >>= f) = (fault? x).or e := by
  cases x with
  | error => rfl
  | ok a => exact h a rfl

@[simp] theorem fault?_bind_pure (x : Except ε α) (f : α → β) :
    fault? (do return f (← x)) = fault? x := by
  cases x <;> rfl

theorem fault?_mapM (f : α → Except ε β) (l : List α) :
    fault? (l.mapM f) = l.findSome? fun a => fault? (f a) := by
  induction l with
  | nil => rfl
  | cons a l ih =>
    rw [List.mapM_cons, List.findSome?_cons]
    cases h : f a with
    | error e => rfl
    | ok b => exact (fault?_bind_pure _ _).trans ih

theorem findSome?_congr {p q : α → Option β} {l : List α} (h : ∀ a ∈ l, p a = q a) :
    l.findSome? p = l.findSome? q := by
  induction l with
  | nil => rfl
  | cons a l ih =>
    rw [List.findSome?_cons, List.findSome?_cons, h a List.mem_cons_self,
      ih fun b hb => h b (List.mem_cons_of_mem a hb)]

theorem fault?_mapM_of {f : α → Except ε β} {p : α → Option ε} {l : List α}
    (h : ∀ a ∈ l, fault? (f a) = p a) : fault? (l.mapM f) = l.findSome? p :=
  (fault?_mapM f l).trans (findSome?_congr h)

theorem mapM_eq_ok_iff {f : α → Except ε β} {l : List α} {r : List β} :
    l.mapM f = .ok r ↔ List.Forall₂ (fun a b => f a = .ok b) l r := by
  induction l generalizing r with
  | nil =>
    rw [List.forall₂_nil_left_iff, List.mapM_nil]
    constructor
    · intro h
      cases h
      rfl
    · rintro rfl
      rfl
  | cons a l ih =>
    rw [List.mapM_cons, List.forall₂_cons_left_iff]
    constructor
    · intro h
      obtain ⟨b, hb, h⟩ := bind_eq_ok_iff.1 h
      obtain ⟨rest, hrest, h⟩ := bind_eq_ok_iff.1 h
      cases h
      exact ⟨b, rest, hb, ih.1 hrest, rfl⟩
    · rintro ⟨b, rest, hb, hrest, rfl⟩
      rw [hb, ih.2 hrest]
      rfl

theorem forall₂_of_mapM {R : α → β → Prop} {f : α → Except ε β} {l : List α} {r : List β}
    (h : l.mapM f = .ok r) (hR : ∀ a ∈ l, ∀ b, f a = .ok b → R a b) : List.Forall₂ R l r := by
  have hall := (List.forall₂_and_left _ _).2 ⟨fun _ ha => ha, mapM_eq_ok_iff.1 h⟩
  exact hall.imp fun a b hab => hR a hab.1 b hab.2

theorem mapM_map (f : α → Except ε β) {γ : Type} (g : β → γ) (l : List α) :
    l.mapM (fun a => (f a).map g) = (l.mapM f).map (·.map g) := by
  induction l with
  | nil => rfl
  | cons a l ih =>
    rw [List.mapM_cons, List.mapM_cons, ih]
    cases f a with
    | error => rfl
    | ok b => cases l.mapM f <;> rfl

theorem mapM_eq_map {γ : Type} {f : α → Except ε γ} {g : α → Except ε β} {k : β → γ}
    (h : ∀ a, f a = (g a).map k) (l : List α) : l.mapM f = (l.mapM g).map (·.map k) := by
  rw [← mapM_map]
  exact congrArg (l.mapM ·) (funext h)

theorem mapM_map_congr {γ : Type} {f : α → Except ε β} {g : γ → Except ε β} {k : α → γ}
    {l : List α} (h : ∀ a ∈ l, g (k a) = f a) : (l.map k).mapM g = l.mapM f := by
  induction l with
  | nil => rfl
  | cons a l ih =>
    rw [List.map_cons, List.mapM_cons, List.mapM_cons, h a List.mem_cons_self,
      ih fun b hb => h b (List.mem_cons_of_mem a hb)]

theorem mapM_congr {f g : α → Except ε β} {l : List α} (h : ∀ a ∈ l, f a = g a) :
    l.mapM f = l.mapM g := by
  have hmap := mapM_map_congr (k := id) fun a ha => (h a ha).symm
  rwa [List.map_id, eq_comm] at hmap

theorem map_eq_of_mapM {γ : Type} {f : α → Except ε β} {l : List α} {r : List β} {p : β → γ}
    {q : α → γ} (h : l.mapM f = .ok r) (hpq : ∀ a b, f a = .ok b → p b = q a) :
    r.map p = l.map q := by
  have hall := mapM_eq_ok_iff.1 h
  clear h
  induction hall with
  | nil => rfl
  | cons hab _ ih => rw [List.map_cons, List.map_cons, hpq _ _ hab, ih]

theorem findSome?_eq_of_mapM {γ : Type} {f : α → Except ε β} {l : List α} {r : List β}
    {p : β → Option γ} {q : α → Option γ} (h : l.mapM f = .ok r)
    (hpq : ∀ a b, f a = .ok b → p b = q a) : r.findSome? p = l.findSome? q := by
  have hall := mapM_eq_ok_iff.1 h
  clear h
  induction hall with
  | nil => rfl
  | cons hab _ ih => rw [List.findSome?_cons, List.findSome?_cons, hpq _ _ hab, ih]

theorem countP_eq_of_mapM {f : α → Except ε β} {l : List α} {r : List β} {p : β → Bool}
    {q : α → Bool} (h : l.mapM f = .ok r) (hpq : ∀ a b, f a = .ok b → p b = q a) :
    r.countP p = l.countP q := by
  have hall := mapM_eq_ok_iff.1 h
  clear h
  induction hall with
  | nil => rfl
  | cons hab _ ih => rw [List.countP_cons, List.countP_cons, hpq _ _ hab, ih]

theorem exists_of_mem_forall₂ {R : α → β → Prop} {l : List α} {r : List β}
    (h : List.Forall₂ R l r) {b : β} (hb : b ∈ r) : ∃ a ∈ l, R a b := by
  induction h with
  | nil => cases hb
  | @cons a _ l _ hab _ ih =>
    rcases List.mem_cons.1 hb with rfl | hb
    · exact ⟨a, List.mem_cons_self, hab⟩
    · obtain ⟨a', ha', hR⟩ := ih hb
      exact ⟨a', List.mem_cons_of_mem a ha', hR⟩

theorem exists_of_mem_mapM {f : α → Except ε β} {l : List α} {r : List β} (h : l.mapM f = .ok r)
    {b : β} (hb : b ∈ r) : ∃ a ∈ l, f a = .ok b :=
  exists_of_mem_forall₂ (mapM_eq_ok_iff.1 h) hb

theorem exists_eq_ok_of_mapM {f : α → Except ε β} {l : List α} {r : List β} (h : l.mapM f = .ok r)
    {a : α} (ha : a ∈ l) : ∃ b, f a = .ok b := by
  have hfaults := fault?_mapM f l
  rw [h, fault?_ok, eq_comm, List.findSome?_eq_none_iff] at hfaults
  exact fault?_eq_none_iff.1 (hfaults a ha)

theorem map_ok_getElem?_of_mapM {f : α → Except ε β} {l : List α} {r : List β}
    (h : l.mapM f = .ok r) (i : Nat) : r[i]?.map Except.ok = l[i]?.map f := by
  have hall := mapM_eq_ok_iff.1 h
  clear h
  induction hall generalizing i with
  | nil => rfl
  | cons hab _ ih =>
    cases i with
    | zero => exact congrArg some hab.symm
    | succ i => exact ih i

theorem getElem?_eq_of_mapM {f g : α → Except ε β} {l : List α} {r r' : List β}
    (hf : l.mapM f = .ok r) (hg : l.mapM g = .ok r') {i : Nat} {a : α} (ha : l[i]? = some a)
    (hfg : f a = g a) : r[i]? = r'[i]? := by
  have hinjective : Function.Injective (Except.ok : β → Except ε β) := fun _ _ => Except.ok.inj
  apply Option.map_injective hinjective
  rw [map_ok_getElem?_of_mapM hf, map_ok_getElem?_of_mapM hg, ha, Option.map_some, Option.map_some,
    hfg]

theorem exists_mem_of_mapM_iff {f : α → Except ε β} {l : List α} {r : List β}
    (h : l.mapM f = .ok r) {p : β → Prop} {q : α → Prop}
    (hpq : ∀ a b, f a = .ok b → (p b ↔ q a)) : (∃ b ∈ r, p b) ↔ ∃ a ∈ l, q a := by
  have hall := mapM_eq_ok_iff.1 h
  clear h
  induction hall with
  | nil => simp
  | cons hab _ ih => simp only [List.mem_cons, exists_eq_or_imp, hpq _ _ hab, ih]

theorem zip_eq_filterMap_of_mapM {f : α → Except ε β} {l : List α} {r : List β}
    (h : l.mapM f = .ok r) : l.zip r = l.filterMap fun a => (f a).toOption.map (a, ·) := by
  have hall := mapM_eq_ok_iff.1 h
  clear h
  induction hall with
  | nil => rfl
  | cons hab _ ih =>
    rw [List.zip_cons_cons, ih, List.filterMap_cons, hab]
    rfl

theorem exists_mapM_of_perm {f : α → Except ε β} {l l' : List α} {r : List β} (hl : l.Perm l')
    (h : l.mapM f = .ok r) : ∃ r', l'.mapM f = .ok r' ∧ (l.zip r).Perm (l'.zip r') := by
  have hfault : fault? (l'.mapM f) = none := by
    rw [fault?_mapM, List.findSome?_eq_none_iff]
    intro a ha
    exact fault?_eq_none_iff.2 (exists_eq_ok_of_mapM h (hl.mem_iff.2 ha))
  obtain ⟨r', hr'⟩ := fault?_eq_none_iff.1 hfault
  have hzip := hl.filterMap fun a => (f a).toOption.map (a, ·)
  rw [← zip_eq_filterMap_of_mapM h, ← zip_eq_filterMap_of_mapM hr'] at hzip
  exact ⟨r', hr', hzip⟩

theorem map_find? (p : α → Bool) (f : α → β) (l : List α) :
    (l.find? p).map f = l.findSome? fun a => if p a then some (f a) else none := by
  induction l with
  | nil => rfl
  | cons a l ih =>
    rw [List.find?_cons, List.findSome?_cons]
    cases h : p a with
    | false => exact ih
    | true => rfl

end RelSchema
