import Fwknopd.Checks

/-! The computations of process_spa_data: a state the stanza's checks change, and early
returns of a verdict that keep the state reached, with one inversion lemma per step. -/
namespace Fwknopd

variable {σ α β : Type}

/-- What process_spa_data changes: the stanza, the spa_data_t, the store and the calls. -/
structure Work (σ : Type) where
  acc : AccStanza
  spadat : SpaData
  store : σ
  calls : List Event

/-- A part of process_spa_data: a value or an early verdict, the state reached kept. -/
abbrev Spa (σ α : Type) := EStateM Verdict (Work σ) α

def workOf : EStateM.Result Verdict (Work σ) α → Work σ
  | .ok _ w => w
  | .error _ w => w

/-- Leave with `v` unless `c` holds: the `if(! check(...)) return v;` of the source. -/
def gate (c : Bool) (v : Verdict) : Spa σ Unit := fun w =>
  if c then .ok () w else .error v w

/-- The value of a call that may fail, or leave with `v`. -/
def need (o : Option α) (v : Verdict) : Spa σ α := fun w =>
  match o with
  | some a => .ok a w
  | none => .error v w

/-- Record a call made while processing stanza number `n`. -/
def emit (n : Nat) (c : Call) : Spa σ Unit := fun w =>
  .ok () { w with calls := w.calls ++ [⟨n, w.acc, w.spadat, c⟩] }

def change (f : Work σ → Work σ) : Spa σ Unit := fun w => .ok () (f w)

def look : Spa σ (Work σ) := fun w => .ok w w

section Inversion

variable {x : Spa σ α} {f : α → Spa σ β} {w w' : Work σ} {b : β} {v : Verdict}

@[simp] theorem bind_ok_iff : (x >>= f) w = .ok b w' ↔
    ∃ a w₁, x w = .ok a w₁ ∧ f a w₁ = .ok b w' := by
  show EStateM.bind x f w = _ ↔ _
  unfold EStateM.bind
  cases x w <;> simp [and_assoc]

@[simp] theorem bind_error_iff : (x >>= f) w = .error v w' ↔
    x w = .error v w' ∨ ∃ a w₁, x w = .ok a w₁ ∧ f a w₁ = .error v w' := by
  show EStateM.bind x f w = _ ↔ _
  unfold EStateM.bind
  cases x w <;> simp [and_assoc]

@[simp] theorem pure_ok_iff {a b : α} : (pure a : Spa σ α) w = .ok b w' ↔ a = b ∧ w = w' := by
  simp [pure, EStateM.pure, and_comm]

@[simp] theorem pure_error_iff {a : α} : (pure a : Spa σ α) w = .error v w' ↔ False := by
  simp [pure, EStateM.pure]

@[simp] theorem gate_ok_iff {c : Bool} {u : Verdict} {a : Unit} :
    gate c u w = .ok a w' ↔ c = true ∧ w = w' := by
  cases c <;> simp [gate]

@[simp] theorem gate_error_iff {c : Bool} {u : Verdict} :
    gate (σ := σ) c u w = .error v w' ↔ c = false ∧ u = v ∧ w = w' := by
  cases c <;> simp [gate]

@[simp] theorem need_ok_iff {o : Option α} {u : Verdict} {a : α} :
    need o u w = .ok a w' ↔ o = some a ∧ w = w' := by
  cases o <;> simp [need]

@[simp] theorem need_error_iff {o : Option α} {u : Verdict} :
    need (σ := σ) o u w = .error v w' ↔ o = none ∧ u = v ∧ w = w' := by
  cases o <;> simp [need]

@[simp] theorem emit_ok_iff {n : Nat} {c : Call} {a : Unit} :
    emit n c w = .ok a w' ↔ { w with calls := w.calls ++ [⟨n, w.acc, w.spadat, c⟩] } = w' := by
  simp [emit]

@[simp] theorem emit_error_iff {n : Nat} {c : Call} : emit n c w = .error v w' ↔ False := by
  simp [emit]

@[simp] theorem change_ok_iff {g : Work σ → Work σ} {a : Unit} :
    change g w = .ok a w' ↔ g w = w' := by
  simp [change]

@[simp] theorem change_error_iff {g : Work σ → Work σ} : change g w = .error v w' ↔ False := by
  simp [change]

@[simp] theorem look_ok_iff {a : Work σ} : look w = .ok a w' ↔ a = w ∧ w = w' := by
  simp [look, eq_comm]

@[simp] theorem look_error_iff : look w = .error v w' ↔ False := by
  simp [look]

variable {g : Work σ → Work σ} {c : Bool} {o : Option α} {k : α → Spa σ β}
  {f' : Unit → Spa σ β}

theorem gate_bind_ok (h : (gate c v >>= f') w = .ok b w') : c = true ∧ f' () w = .ok b w' := by
  obtain ⟨_, _, h₁, h⟩ := bind_ok_iff.1 h
  obtain ⟨hc, rfl⟩ := gate_ok_iff.1 h₁
  exact ⟨hc, h⟩

theorem need_bind_ok (h : (need o v >>= k) w = .ok b w') : ∃ a, o = some a ∧ k a w = .ok b w' := by
  obtain ⟨a, _, h₁, h⟩ := bind_ok_iff.1 h
  obtain ⟨ho, rfl⟩ := need_ok_iff.1 h₁
  exact ⟨a, ho, h⟩

theorem look_bind_ok {k : Work σ → Spa σ β} (h : (look >>= k) w = .ok b w') : k w w = .ok b w' := by
  obtain ⟨_, _, h₁, h⟩ := bind_ok_iff.1 h
  obtain ⟨rfl, rfl⟩ := look_ok_iff.1 h₁
  exact h

theorem pure_bind_ok {a : α} (h : (pure a >>= k) w = .ok b w') : k a w = .ok b w' := by
  obtain ⟨_, _, h₁, h⟩ := bind_ok_iff.1 h
  obtain ⟨rfl, rfl⟩ := pure_ok_iff.1 h₁
  exact h

theorem change_bind_ok (h : (change g >>= f') w = .ok b w') : f' () (g w) = .ok b w' := by
  obtain ⟨_, _, h₁, h⟩ := bind_ok_iff.1 h
  obtain rfl := change_ok_iff.1 h₁
  exact h

end Inversion

/-- `m` relates, by `R`, the state it starts in to every state it ends in. -/
def Keeps (R : Work σ → Work σ → Prop) (m : Spa σ α) : Prop := ∀ w, R w (workOf (m w))

section Keeps

variable {R : Work σ → Work σ → Prop}

theorem Keeps.bind [IsTrans (Work σ) R] {m : Spa σ α} {f : α → Spa σ β} (hm : Keeps R m)
    (hf : ∀ a, Keeps R (f a)) : Keeps R (m >>= f) := fun w => by
  show R w (workOf (EStateM.bind m f w))
  have h := hm w
  unfold EStateM.bind
  revert h
  cases m w with
  | ok a w₁ => exact fun h => IsTrans.trans _ _ _ h (hf a w₁)
  | error e w₁ => exact id

variable [IsRefl (Work σ) R]

theorem Keeps.pure (a : α) : Keeps R (pure a : Spa σ α) := fun w => refl_of R w

theorem Keeps.gate (c : Bool) (v : Verdict) : Keeps R (gate (σ := σ) c v) := fun w => by
  cases c <;> exact refl_of R w

theorem Keeps.need (o : Option α) (v : Verdict) : Keeps R (need (σ := σ) o v) := fun w => by
  cases o <;> exact refl_of R w

theorem Keeps.look : Keeps R (look (σ := σ)) := fun w => refl_of R w

end Keeps

theorem Keeps.of_ok {R : Work σ → Work σ → Prop} {m : Spa σ α} {w w' : Work σ} {a : α}
    (h : Keeps R m) (hm : m w = .ok a w') : R w w' := by
  simpa [workOf, hm] using h w

theorem Keeps.ite {R : Work σ → Work σ → Prop} {c : Prop} [Decidable c] {m₁ m₂ : Spa σ α}
    (h₁ : Keeps R m₁) (h₂ : Keeps R m₂) : Keeps R (if c then m₁ else m₂) := by
  split
  · exact h₁
  · exact h₂

def Adds (P : Event → Prop) (w w' : Work σ) : Prop :=
  ∃ new, w'.calls = w.calls ++ new ∧ ∀ e ∈ new, P e

section Adds

variable {P : Event → Prop}

instance : IsRefl (Work σ) (Adds P) := ⟨fun _ => ⟨[], by simp, by simp⟩⟩

instance : IsTrans (Work σ) (Adds P) :=
  ⟨fun _ _ _ ⟨n₁, h₁, p₁⟩ ⟨n₂, h₂, p₂⟩ =>
    ⟨n₁ ++ n₂, by simp [h₂, h₁], fun e he => (List.mem_append.1 he).elim (p₁ e) (p₂ e)⟩⟩

theorem Keeps.emit {n : Nat} {c : Call} (h : ∀ a d, P ⟨n, a, d, c⟩) :
    Keeps (Adds P) (emit (σ := σ) n c) := fun w => ⟨_, rfl, by simpa using h w.acc w.spadat⟩

theorem Keeps.change {f : Work σ → Work σ} (h : ∀ w, (f w).calls = w.calls) :
    Keeps (Adds P) (change f) := fun w => ⟨[], by simp [workOf, Fwknopd.change, h], by simp⟩

theorem Adds.mono {Q : Event → Prop} (hPQ : ∀ e, P e → Q e) {w w' : Work σ} :
    Adds P w w' → Adds Q w w' := fun ⟨n, h, p⟩ => ⟨n, h, fun e he => hPQ e (p e he)⟩

theorem Keeps.mono {Q : Event → Prop} (hPQ : ∀ e, P e → Q e) {m : Spa σ α} (h : Keeps (Adds P) m) :
    Keeps (Adds Q) m := fun w => (h w).mono hPQ

end Adds

/-- Only calls are appended, each satisfying `P`. -/
def Logs (P : Event → Prop) (w w' : Work σ) : Prop :=
  ∃ new, w' = { w with calls := w.calls ++ new } ∧ ∀ e ∈ new, P e

section Logs

variable {P : Event → Prop}

instance : IsRefl (Work σ) (Logs P) := ⟨fun _ => ⟨[], by simp, by simp⟩⟩

instance : IsTrans (Work σ) (Logs P) :=
  ⟨fun _ _ _ ⟨n₁, h₁, p₁⟩ ⟨n₂, h₂, p₂⟩ =>
    ⟨n₁ ++ n₂, by simp [h₂, h₁], fun e he => (List.mem_append.1 he).elim (p₁ e) (p₂ e)⟩⟩

theorem Logs.adds {w w' : Work σ} : Logs P w w' → Adds P w w' :=
  fun ⟨n, h, p⟩ => ⟨n, h ▸ rfl, p⟩

theorem Logs.subset {w w' : Work σ} (h : Logs P w w') : w.calls ⊆ w'.calls := by
  obtain ⟨n, rfl, -⟩ := h
  exact List.subset_append_left _ _

theorem Keeps.emit_logs {n : Nat} {c : Call} (h : ∀ a d, P ⟨n, a, d, c⟩) :
    Keeps (Logs P) (Fwknopd.emit (σ := σ) n c) := fun w => ⟨_, rfl, by simpa using h w.acc w.spadat⟩

theorem Keeps.adds {α : Type} {m : Spa σ α} (h : Keeps (Logs P) m) : Keeps (Adds P) m :=
  fun w => (h w).adds

end Logs

def SpadatOnly (w w' : Work σ) : Prop := w'.acc = w.acc ∧ w'.store = w.store ∧ w'.calls = w.calls

instance : IsRefl (Work σ) SpadatOnly := ⟨fun _ => ⟨rfl, rfl, rfl⟩⟩

theorem SpadatOnly.trans {w₁ w₂ w₃ : Work σ} (h₁ : SpadatOnly w₁ w₂) (h₂ : SpadatOnly w₂ w₃) :
    SpadatOnly w₁ w₃ :=
  ⟨h₂.1.trans h₁.1, h₂.2.1.trans h₁.2.1, h₂.2.2.trans h₁.2.2⟩

instance : IsTrans (Work σ) SpadatOnly := ⟨fun _ _ _ => SpadatOnly.trans⟩

theorem Keeps.change_spadat {g : Work σ → SpaData} :
    Keeps SpadatOnly (Fwknopd.change fun w => { w with spadat := g w }) := fun _ => ⟨rfl, rfl, rfl⟩

theorem Keeps.change_spadat_adds {P : Event → Prop} {g : Work σ → SpaData} :
    Keeps (Adds P) (Fwknopd.change fun w => { w with spadat := g w }) := Keeps.change fun _ => rfl

def Stamped (n : Nat) (w w' : Work σ) : Prop :=
  w'.acc = w.acc ∧ ∃ new, w'.calls = w.calls ++ new ∧ ∀ e ∈ new, e.stanzaNum = n ∧ e.acc = w.acc

instance {n : Nat} : IsRefl (Work σ) (Stamped n) := ⟨fun _ => ⟨rfl, [], by simp, by simp⟩⟩

instance {n : Nat} : IsTrans (Work σ) (Stamped n) :=
  ⟨fun _ _ _ ⟨ha₁, n₁, h₁, p₁⟩ ⟨ha₂, n₂, h₂, p₂⟩ => ⟨ha₂.trans ha₁, n₁ ++ n₂, by simp [h₂, h₁],
    fun e he => (List.mem_append.1 he).elim (p₁ e) fun he => ⟨(p₂ e he).1, (p₂ e he).2.trans ha₁⟩⟩⟩

theorem Keeps.emit_stamped {n : Nat} {c : Call} :
    Keeps (Stamped n) (Fwknopd.emit (σ := σ) n c) :=
  fun _ => ⟨rfl, _, rfl, by simp⟩

theorem Keeps.change_stamped {n : Nat} {f : Work σ → Work σ}
    (h : ∀ w, (f w).acc = w.acc ∧ (f w).calls = w.calls) :
    Keeps (Stamped n) (Fwknopd.change f) :=
  fun w => ⟨(h w).1, [], by simp [workOf, Fwknopd.change, (h w).2], by simp⟩

/-- `m`, started in `w`, records the call `e`, which was not recorded before. -/
def Records (m : Spa σ α) (w : Work σ) (e : Event) : Prop :=
  e ∈ (workOf (m w)).calls ∧ e ∉ w.calls

section Records

variable {P : Event → Prop} {x : Spa σ α} {f : α → Spa σ β} {w : Work σ} {e : Event}

theorem Records.bind (hx : Keeps (Adds P) x) (he : ¬ P e) (h : Records (x >>= f) w e) :
    ∃ a w₁, x w = .ok a w₁ ∧ Records (f a) w₁ e := by
  obtain ⟨new, hnew, hP⟩ := hx w
  revert h hnew
  show e ∈ (workOf (EStateM.bind x f w)).calls ∧ e ∉ w.calls → _
  unfold EStateM.bind
  cases x w with
  | ok a w₁ =>
    rintro ⟨hin, hout⟩ hnew
    refine ⟨a, w₁, rfl, hin, fun h₁ => ?_⟩
    rcases List.mem_append.1 (hnew ▸ h₁) with h₂ | h₂
    exacts [hout h₂, he (hP e h₂)]
  | error v w₁ =>
    rintro ⟨hin, hout⟩ hnew
    rcases List.mem_append.1 (hnew ▸ hin) with h₂ | h₂
    exacts [(hout h₂).elim, (he (hP e h₂)).elim]

theorem Records.of_keeps (hx : Keeps (Adds P) x) (h : Records x w e) : P e := by
  obtain ⟨hin, hout⟩ := h
  obtain ⟨new, hnew, hP⟩ := hx w
  rcases List.mem_append.1 (hnew ▸ hin) with h₂ | h₂
  exacts [absurd h₂ hout, hP e h₂]

theorem Records.of_stamped {n : Nat} {m : Spa σ α} (hm : Keeps (Stamped n) m)
    (h : Records m w e) : e.stanzaNum = n ∧ e.acc = w.acc := by
  obtain ⟨-, new, hnew, hP⟩ := hm w
  exact hP e ((List.mem_append.1 (hnew ▸ h.1)).resolve_left h.2)

theorem Records.not_pure {a : α} : ¬ Records (pure a : Spa σ α) w e :=
  fun ⟨hin, hout⟩ => hout hin

theorem Records.of_bind_pure {g : α → β} (h : Records (x >>= fun a => pure (g a)) w e) :
    Records x w e := by
  have hw : workOf ((x >>= fun a => pure (g a)) w) = workOf (x w) := by
    show workOf (EStateM.bind x _ w) = _
    unfold EStateM.bind
    cases x w <;> rfl
  unfold Records at h ⊢
  rwa [hw] at h

theorem Records.bind_quiet (hx : Keeps (Adds fun _ => False) x) (h : Records (x >>= f) w e) :
    ∃ a w₁, x w = .ok a w₁ ∧ Records (f a) w₁ e :=
  Records.bind hx not_false h

theorem bind_apply_of_ok {a : α} {w₁ : Work σ} (hx : x w = .ok a w₁) : (x >>= f) w = f a w₁ := by
  show EStateM.bind x f w = _
  unfold EStateM.bind
  rw [hx]

theorem Records.sublist {m : Spa σ α} {l : List Event} (hm : Keeps (Adds P) m) (h : Records m w e)
    (hl : l.Sublist w.calls) : (l ++ [e]).Sublist (workOf (m w)).calls := by
  obtain ⟨new, hnew, -⟩ := hm w
  obtain ⟨hin, hout⟩ := h
  rw [hnew] at hin ⊢
  exact hl.append (List.singleton_sublist.2 ((List.mem_append.1 hin).resolve_left hout))

theorem Records.look_bind {k : Work σ → Spa σ β} (h : Records (look >>= k) w e) :
    Records (k w) w e := h

theorem look_bind_apply {k : Work σ → Spa σ β} : (look >>= k) w = k w w := rfl

theorem Records.gate_bind {c : Bool} {v : Verdict} {f : Unit → Spa σ β}
    (h : Records (gate c v >>= f) w e) : c = true ∧ Records (f ()) w e := by
  cases c
  · exact absurd h fun ⟨hin, hout⟩ => hout hin
  · exact ⟨rfl, h⟩

theorem gate_bind_apply {c : Bool} {v : Verdict} {f : Unit → Spa σ β} (hc : c = true) :
    (gate c v >>= f) w = f () w := by
  subst hc
  rfl

theorem Records.change_bind {g : Work σ → Work σ} {f : Unit → Spa σ β}
    (h : Records (change g >>= f) w e) (hg : (g w).calls = w.calls) : Records (f ()) (g w) e :=
  ⟨h.1, hg ▸ h.2⟩

theorem change_bind_apply {g : Work σ → Work σ} {f : Unit → Spa σ β} :
    (change g >>= f) w = f () (g w) := rfl

theorem Records.emit {n : Nat} {c : Call} : Records (emit (σ := σ) n c) w e ↔
    e = ⟨n, w.acc, w.spadat, c⟩ ∧ e ∉ w.calls := by
  simp only [Records, Fwknopd.emit, workOf, List.mem_append, List.mem_singleton]
  constructor
  · rintro ⟨h | h, hout⟩
    exacts [(hout h).elim, ⟨h, hout⟩]
  · exact fun ⟨h, hout⟩ => ⟨.inr h, hout⟩

end Records

end Fwknopd
