import Fwknopd.Search

/-! The replay store follows the calls: it is the cache's state after exactly the add_replay
calls recorded, each with the outcome the cache gave. -/
namespace Fwknopd

variable {σ : Type} {env : Env σ} {opts : FkoSrvOptions} {clock : Clock} {acc : AccStanza}
  {pkt : SpaPktInfo} {n : Nat} {rd : Option String} {age : Int}

/-- The store after the replay-cache inserts recorded in `l`, from `s`; `none` when a recorded
outcome is not the one the cache gives. -/
def replayInserts (env : Env σ) : σ → List Event → Option σ
  | s, [] => some s
  | s, e :: l =>
    match e.call with
    | .addReplay d ok =>
      if (env.addReplay s d).1 = ok then replayInserts env (env.addReplay s d).2 l else none
    | _ => replayInserts env s l

theorem replayInserts_append {s : σ} {l₁ l₂ : List Event} :
    replayInserts env s (l₁ ++ l₂) =
      (replayInserts env s l₁).bind fun s' => replayInserts env s' l₂ := by
  induction l₁ generalizing s with
  | nil => rfl
  | cons e l ih =>
    simp only [List.cons_append, replayInserts]
    split
    · split_ifs <;> simp [ih]
    · exact ih

/-- Calls are only appended, and the store follows the inserts among them. -/
def StoreFollows (env : Env σ) (w w' : Work σ) : Prop :=
  ∃ new, w'.calls = w.calls ++ new ∧ replayInserts env w.store new = some w'.store

instance : IsRefl (Work σ) (StoreFollows env) := ⟨fun _ => ⟨[], by simp, rfl⟩⟩

instance : IsTrans (Work σ) (StoreFollows env) :=
  ⟨fun _ _ _ ⟨n₁, h₁, r₁⟩ ⟨n₂, h₂, r₂⟩ =>
    ⟨n₁ ++ n₂, by simp [h₂, h₁], by simp [replayInserts_append, r₁, r₂]⟩⟩

theorem Keeps.change_follows {f : Work σ → Work σ}
    (h : ∀ w, (f w).store = w.store ∧ (f w).calls = w.calls) :
    Keeps (StoreFollows env) (Fwknopd.change f) :=
  fun w => ⟨[], by simp [workOf, Fwknopd.change, (h w).2], by simp [workOf, Fwknopd.change,
    replayInserts, (h w).1]⟩

theorem Keeps.emit_follows {c : Call} (h : ∀ d ok, c ≠ .addReplay d ok) :
    Keeps (StoreFollows env) (Fwknopd.emit (σ := σ) n c) := fun w => by
  refine ⟨_, rfl, ?_⟩
  cases c <;> first | exact absurd rfl (h _ _) | rfl

theorem addReplayCache_follows {added : Bool} :
    Keeps (StoreFollows env) (addReplayCache env opts rd added n) := by
  refine Keeps.ite ?_ (Keeps.pure _)
  split
  · exact Keeps.pure _
  · rename_i d
    intro w
    refine ⟨[⟨n, w.acc, w.spadat, .addReplay d (env.addReplay w.store d).1⟩], ?_, ?_⟩ <;>
      simp only [bind, EStateM.bind, look, change, emit, gate, pure, EStateM.pure] <;>
      cases h : (env.addReplay w.store d).1 <;> simp [workOf, replayInserts, h]

theorem Call.IsAttempt.ne_addReplay {c : Call} (h : c.IsAttempt) (d : String) (ok : Bool) :
    c ≠ .addReplay d ok := by
  rintro rfl
  exact h

theorem Call.IsDispatch.ne_addReplay {c : Call} (h : c.IsDispatch) (d : String) (ok : Bool) :
    c ≠ .addReplay d ok := by
  rintro rfl
  rcases h with h | h
  exacts [h, Call.noConfusion h]

theorem decrypt_follows : Keeps (StoreFollows env) (decrypt env acc pkt n) :=
  decrypt_keeps fun hc => Keeps.emit_follows hc.ne_addReplay

theorem validate_follows {t : EncType} {ctx : FkoCtx} :
    Keeps (StoreFollows env) (validate env opts clock acc n rd age t ctx) :=
  validate_keeps (Keeps.change_follows fun _ => ⟨rfl, rfl⟩) addReplayCache_follows

theorem dispatch_follows {m : MsgType} : Keeps (StoreFollows env) (dispatch env opts acc n m) :=
  dispatch_keeps (fun hc => Keeps.emit_follows hc.ne_addReplay)
    (Keeps.change_follows fun _ => ⟨rfl, rfl⟩)

theorem processSpaData_follows :
    Keeps (StoreFollows env) (processSpaData env opts clock pkt n rd age) :=
  processSpaData_keeps (Keeps.change_follows fun _ => ⟨rfl, rfl⟩) decrypt_follows
    validate_follows dispatch_follows

theorem accLoop_follows {w : Work σ} {accs : List AccStanza} :
    StoreFollows env w (accLoop env opts clock pkt rd age n w accs).2 := by
  induction accs generalizing n w with
  | nil => exact refl_of _ w
  | cons acc rest ih =>
    have h : StoreFollows env w (workOf (processSpaData env opts clock pkt (n + 1) rd age
        { w with acc := acc })) := processSpaData_follows _
    cases hv : verdictOf (processSpaData env opts clock pkt (n + 1) rd age { w with acc := acc })
    · simpa only [accLoop, hv] using trans_of _ h ih
    · simpa only [accLoop, hv] using h

theorem incomingSpa_follows {s : Server σ} :
    replayInserts env s.store (incomingSpa env opts clock s).2 =
      some (incomingSpa env opts clock s).1.store := by
  rcases incomingSpa_cases env opts clock s with ⟨hnil, -, hstore⟩ |
    ⟨pkt, rd, acc, age, -, -, -, -, heq⟩
  · rw [hnil, hstore]
    rfl
  rw [heq]
  unfold searchStanzas
  split_ifs
  · have h : StoreFollows env ⟨acc, initSpaData pkt, s.store, []⟩
        (accLoop env opts clock pkt rd age 0 ⟨acc, initSpaData pkt, s.store, []⟩
          s.policy.accStanzas).2 := accLoop_follows
    obtain ⟨new, hnew, hr⟩ := h
    simpa [hnew] using hr
  · have h : StoreFollows env ⟨acc, initSpaData pkt, s.store, []⟩
        (workOf (processSpaData env opts clock pkt 0 rd age ⟨acc, initSpaData pkt, s.store, []⟩)) :=
      processSpaData_follows _
    obtain ⟨new, hnew, hr⟩ := h
    simpa [hnew] using hr

theorem serverStep_follows {s : Server σ} {d : Datagram} :
    replayInserts env s.store (serverStep env opts s d clock).2 =
      some (serverStep env opts s d clock).1.store := by
  unfold serverStep
  split
  · rfl
  · rename_i slot _
    exact @incomingSpa_follows σ env opts clock { s with slot := slot }

theorem replayInserts_of_no_inserts {s : σ} {l : List Event}
    (h : ∀ e ∈ l, ∀ g ok, e.call ≠ .addReplay g ok) : replayInserts env s l = some s := by
  induction l with
  | nil => rfl
  | cons e l ih =>
    simp only [replayInserts]
    split
    · exact absurd ‹_› (h e (List.mem_cons_self e l) _ _)
    · exact ih fun e' he' => h e' (List.mem_cons_of_mem e he')

/-- A recorded insert is of the digest `rd`, outside test mode under persistence. -/
def InsertsDigest (opts : FkoSrvOptions) (rd : Option String) (e : Event) : Prop :=
  match e.call with
  | .addReplay g _ => opts.test = false ∧ opts.is .enableDigestPersistence 'Y' = true ∧ rd = some g
  | _ => True

theorem insertsDigest_of_ne {e : Event} (h : ∀ g ok, e.call ≠ .addReplay g ok) :
    InsertsDigest opts rd e := by
  unfold InsertsDigest
  split
  · exact absurd ‹_› (h _ _)
  · trivial

theorem addReplayCache_inserts {added : Bool} :
    Keeps (Adds (InsertsDigest opts rd)) (addReplayCache env opts rd added n) := by
  unfold addReplayCache
  split_ifs with hc
  · simp only [Bool.and_eq_true, Bool.not_eq_true'] at hc
    split
    · exact Keeps.pure _
    · exact Keeps.bind Keeps.look fun _ => Keeps.bind (Keeps.change fun _ => rfl) fun _ =>
        Keeps.bind (Keeps.emit fun _ _ => ⟨hc.1.1, hc.2, rfl⟩) fun _ =>
        Keeps.bind (Keeps.gate _ _) fun _ => Keeps.pure _
  · exact Keeps.pure _

theorem decrypt_inserts : Keeps (Adds (InsertsDigest opts rd)) (decrypt env acc pkt n) :=
  decrypt_keeps fun hc => Keeps.emit fun _ _ => insertsDigest_of_ne hc.ne_addReplay

theorem processSpaData_inserts :
    Keeps (Adds (InsertsDigest opts rd)) (processSpaData env opts clock pkt n rd age) :=
  processSpaData_keeps (Keeps.change fun _ => rfl) decrypt_inserts
    (validate_keeps Keeps.change_spadat_adds addReplayCache_inserts)
    (dispatch_keeps (fun hc => Keeps.emit fun _ _ => insertsDigest_of_ne hc.ne_addReplay)
      Keeps.change_spadat_adds)

theorem incomingSpa_inserts {s : Server σ} {e : Event} (he : e ∈ (incomingSpa env opts clock s).2) :
    ∃ pkt rd, precheckPkt env opts s.slot = .ok pkt ∧ replayCheck env opts s.store pkt = some rd ∧
      InsertsDigest opts rd e := by
  obtain ⟨pkt, rd, age, acc, n, w, hpkt, hrd, -, -, -, hrec, -⟩ := incomingSpa_records he
  exact ⟨pkt, rd, hpkt, hrd, hrec.of_keeps processSpaData_inserts⟩

end Fwknopd
