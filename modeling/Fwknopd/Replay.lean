import Fwknopd.Reference
import Fwknopd.Store

/-! Replay suppression over runs of the server. replay_check (lines 437-458) drops a known
digest and add_replay_cache (lines 917-937) inserts it after a decryption; its once-a-packet flag
is a local of process_spa_data, so a later stanza inserts again. Test mode skips the insert. -/
namespace Fwknopd

variable {σ : Type} {env : Env σ} {opts : FkoSrvOptions}

/-- The cache's contract: a digest inserted successfully stays a replay. -/
structure ReplayStore (env : Env σ) : Prop where
  remembers {s d} : (env.addReplay s d).1 = true → env.isReplay (env.addReplay s d).2 d = true
  keeps {s d d'} : env.isReplay s d = true → env.isReplay (env.addReplay s d').2 d = true

/-- The digest replay_check takes of a datagram received into `s`. -/
def turnDigest (env : Env σ) (opts : FkoSrvOptions) (s : Server σ) (d : Datagram) :
    Option String :=
  (turnPkt env opts s d).bind fun pkt => env.getRawDigest pkt.packetData

theorem replayCheck_persistent {store : σ} {pkt : SpaPktInfo} {rd : Option String}
    (hp : opts.is .enableDigestPersistence 'Y' = true)
    (h : replayCheck env opts store pkt = some rd) :
    ∃ g, env.getRawDigest pkt.packetData = some g ∧ env.isReplay store g = false ∧ rd = some g := by
  unfold replayCheck at h
  simp only [hp, if_true] at h
  split at h
  · cases h
  · rename_i g hg
    split_ifs at h with hr
    cases h
    exact ⟨g, hg, by simpa using hr, rfl⟩

theorem serverStep_dropped {s : Server σ} {d : Datagram} {clock : Clock}
    (hp : opts.is .enableDigestPersistence 'Y' = true)
    (hd : turnDigest env opts s d = none ∨
      ∃ g, turnDigest env opts s d = some g ∧ env.isReplay s.store g = true) :
    (serverStep env opts s d clock).2 = [] ∧ (serverStep env opts s d clock).1.policy = s.policy ∧
      (serverStep env opts s d clock).1.store = s.store := by
  unfold turnDigest turnPkt at hd
  unfold serverStep
  cases hr : receive env.toConsts s.slot d with
  | none => exact ⟨rfl, rfl, rfl⟩
  | some slot =>
  dsimp only
  rcases incomingSpa_cases env opts clock { s with slot := slot } with h |
    ⟨pkt, rd, -, -, hpkt, hrd, -⟩
  · exact h
  obtain ⟨g, hg, hfresh, -⟩ := replayCheck_persistent hp hrd
  simp only [hr, Option.some_bind] at hd
  rw [show precheckPkt env opts slot = .ok pkt from hpkt] at hd
  simp only [Except.toOption, Option.some_bind, hg] at hd
  rcases hd with h | ⟨_, ⟨⟩, hg'⟩
  · cases h
  · simp [hfresh] at hg'

theorem serverStep_action {s : Server σ} {d : Datagram} {clock : Clock} {e : Event}
    (hp : opts.is .enableDigestPersistence 'Y' = true) (ht : opts.test = false)
    (he : e ∈ (serverStep env opts s d clock).2) (ha : e.call.IsAction) :
    ∃ g, turnDigest env opts s d = some g ∧ env.isReplay s.store g = false ∧
      ∃ eDec sd, eDec.stanzaNum = e.stanzaNum ∧ eDec.acc = e.acc ∧ eDec.IsDecryption ∧
        [eDec, ⟨e.stanzaNum, e.acc, sd, .addReplay g true⟩, e].Sublist
          (serverStep env opts s d clock).2 := by
  obtain ⟨pkt, rd, age, hpkt, hrd, -, -, -, eDec, hn, hacc, hdec, -, hcommit⟩ :=
    serverStep_admitted he ha
  obtain ⟨g, hg, hfresh, rfl⟩ := replayCheck_persistent hp hrd
  obtain ⟨sd, hsub⟩ := hcommit g rfl ht hp
  exact ⟨g, by simp [turnDigest, hpkt, hg], hfresh, eDec, sd, hn, hacc, hdec, hsub⟩

section Contract

variable (hs : ReplayStore env)
include hs

theorem replayInserts_keeps {s s' : σ} {l : List Event} {g : String}
    (h : replayInserts env s l = some s') (hg : env.isReplay s g = true) :
    env.isReplay s' g = true := by
  induction l generalizing s with
  | nil => exact Option.some.inj h ▸ hg
  | cons e l ih =>
    simp only [replayInserts] at h
    split at h
    · split_ifs at h
      exact ih h (hs.keeps hg)
    · exact ih h hg

theorem replayInserts_remembers {s s' : σ} {l : List Event} {e : Event} {g : String}
    (h : replayInserts env s l = some s') (he : e ∈ l) (hc : e.call = .addReplay g true) :
    env.isReplay s' g = true := by
  induction l generalizing s with
  | nil => cases he
  | cons e' l ih =>
    simp only [replayInserts] at h
    rcases List.mem_cons.1 he with rfl | he
    · simp only [hc] at h
      split_ifs at h with hok
      exact replayInserts_keeps hs h (hs.remembers hok)
    · split at h
      · split_ifs at h
        exact ih h he
      · exact ih h he

theorem serverRun_keeps (opts : FkoSrvOptions) {s : Server σ} (ds : List (Datagram × Clock))
    {g : String} (hg : env.isReplay s.store g = true) :
    env.isReplay (serverRun env opts s ds).1.store g = true := by
  induction ds generalizing s with
  | nil => exact hg
  | cons dc ds ih => exact ih (replayInserts_keeps hs serverStep_follows hg)

end Contract

/-- Replay suppression over runs: a known digest is dropped before any stanza, every action
follows its turn's decryption and insert, and two acting turns have different digests. -/
theorem replay_suppressed (hs : ReplayStore env)
    (hp : opts.is .enableDigestPersistence 'Y' = true) (ht : opts.test = false) :
    (∀ s d clock, (turnDigest env opts s d = none ∨
        ∃ g, turnDigest env opts s d = some g ∧ env.isReplay s.store g = true) →
      (serverStep env opts s d clock).2 = [] ∧
        (serverStep env opts s d clock).1.policy = s.policy ∧
        (serverStep env opts s d clock).1.store = s.store) ∧
    (∀ s d clock e, e ∈ (serverStep env opts s d clock).2 → e.call.IsAction →
      ∃ g, turnDigest env opts s d = some g ∧
        ∃ eDec sd, eDec.stanzaNum = e.stanzaNum ∧ eDec.acc = e.acc ∧ eDec.IsDecryption ∧
          [eDec, ⟨e.stanzaNum, e.acc, sd, .addReplay g true⟩, e].Sublist
            (serverStep env opts s d clock).2) ∧
    (∀ s₁ d₁ c₁ ds d₂ c₂,
      (∃ e ∈ (serverStep env opts s₁ d₁ c₁).2, e.call.IsAction) →
      (∃ e ∈ (serverStep env opts (serverRun env opts (serverStep env opts s₁ d₁ c₁).1 ds).1
        d₂ c₂).2, e.call.IsAction) →
      turnDigest env opts s₁ d₁ ≠
        turnDigest env opts (serverRun env opts (serverStep env opts s₁ d₁ c₁).1 ds).1 d₂) := by
  refine ⟨fun s d clock hd => serverStep_dropped hp hd, fun s d clock e he ha => ?_, ?_⟩
  · obtain ⟨g, hg, -, hrest⟩ := serverStep_action hp ht he ha
    exact ⟨g, hg, hrest⟩
  · rintro s₁ d₁ c₁ ds d₂ c₂ ⟨e₁, he₁, ha₁⟩ ⟨e₂, he₂, ha₂⟩ heq
    obtain ⟨g, hg, -, eDec, sd, -, -, -, hsub⟩ := serverStep_action hp ht he₁ ha₁
    obtain ⟨g₂, hg₂, hfresh, -⟩ := serverStep_action hp ht he₂ ha₂
    have hin : (⟨e₁.stanzaNum, e₁.acc, sd, .addReplay g true⟩ : Event) ∈
        (serverStep env opts s₁ d₁ c₁).2 := hsub.subset (by simp)
    have hheld := serverRun_keeps hs opts ds
      (replayInserts_remembers hs serverStep_follows hin rfl)
    obtain rfl : g = g₂ := Option.some.inj (hg.symm.trans (heq.trans hg₂))
    simp [hheld] at hfresh

theorem refEnv_replayStore (key : String) (msg : FkoCtx) : ReplayStore (refEnv key msg) where
  remembers h := by
    simp only [refEnv, refAddReplay] at h ⊢
    split_ifs at h ⊢
    simp_all
  keeps h := by
    simp only [refEnv, refAddReplay] at h ⊢
    split_ifs <;> simp_all

theorem replay_suppressed_refEnv :
    ∃ (env : Env (List String)) (opts : FkoSrvOptions), ReplayStore env ∧
      opts.is .enableDigestPersistence 'Y' = true ∧ opts.test = false ∧
    (∀ s d clock, (turnDigest env opts s d = none ∨
        ∃ g, turnDigest env opts s d = some g ∧ env.isReplay s.store g = true) →
      (serverStep env opts s d clock).2 = [] ∧
        (serverStep env opts s d clock).1.policy = s.policy ∧
        (serverStep env opts s d clock).1.store = s.store) ∧
    (∀ s d clock e, e ∈ (serverStep env opts s d clock).2 → e.call.IsAction →
      ∃ g, turnDigest env opts s d = some g ∧
        ∃ eDec sd, eDec.stanzaNum = e.stanzaNum ∧ eDec.acc = e.acc ∧ eDec.IsDecryption ∧
          [eDec, ⟨e.stanzaNum, e.acc, sd, .addReplay g true⟩, e].Sublist
            (serverStep env opts s d clock).2) ∧
    (∀ s₁ d₁ c₁ ds d₂ c₂,
      (∃ e ∈ (serverStep env opts s₁ d₁ c₁).2, e.call.IsAction) →
      (∃ e ∈ (serverStep env opts (serverRun env opts (serverStep env opts s₁ d₁ c₁).1 ds).1
        d₂ c₂).2, e.call.IsAction) →
      turnDigest env opts s₁ d₁ ≠
        turnDigest env opts (serverRun env opts (serverStep env opts s₁ d₁ c₁).1 ds).1 d₂) :=
  ⟨refEnv "k" refRequest, refOpts "Y" false, refEnv_replayStore "k" refRequest, by decide, rfl,
    replay_suppressed (refEnv_replayStore "k" refRequest) (by decide) rfl⟩

/-- Every add_replay call inserts replay_check's digest, outside test mode under persistence,
for a selected stanza after its decryption. -/
theorem incomingSpa_insert_after_decryption {clock : Clock} {s : Server σ} {e : Event}
    {g : String} {ok : Bool} (he : e ∈ (incomingSpa env opts clock s).2)
    (hc : e.call = .addReplay g ok) :
    opts.test = false ∧ opts.is .enableDigestPersistence 'Y' = true ∧
      ∃ pkt, precheckPkt env opts s.slot = .ok pkt ∧
        replayCheck env opts s.store pkt = some (some g) ∧
        Selected opts s.policy pkt e.acc e.stanzaNum ∧
        ∃ eDec, eDec.stanzaNum = e.stanzaNum ∧ eDec.acc = e.acc ∧ eDec.IsDecryption ∧
          [eDec, e].Sublist (incomingSpa env opts clock s).2 := by
  obtain ⟨pkt, rd, age, acc, n, w, hpkt, hrd, -, hsel, rfl, hrec, hpre⟩ := incomingSpa_records he
  obtain ⟨hn, hacc, eDec, hn', heacc, hdec, hsub⟩ := processSpaData_insert hrec hc
  have hd : InsertsDigest opts rd e := hrec.of_keeps processSpaData_inserts
  simp only [InsertsDigest, hc] at hd
  obtain ⟨ht, hp, rfl⟩ := hd
  rw [hacc, hn]
  exact ⟨ht, hp, pkt, hpkt, hrd, hsel, eDec, hn', heacc, hdec, hsub.trans hpre.sublist⟩

theorem incomingSpa_insert_after_decryption_refServer :
    ∃ (env : Env (List String)) (opts : FkoSrvOptions) (clock : Clock) (s : Server (List String))
      (e : Event) (g : String) (ok : Bool),
      e ∈ (incomingSpa env opts clock s).2 ∧ e.call = .addReplay g ok ∧
      opts.test = false ∧ opts.is .enableDigestPersistence 'Y' = true ∧
      ∃ pkt, precheckPkt env opts s.slot = .ok pkt ∧
        replayCheck env opts s.store pkt = some (some g) ∧
        Selected opts s.policy pkt e.acc e.stanzaNum ∧
        ∃ eDec, eDec.stanzaNum = e.stanzaNum ∧ eDec.acc = e.acc ∧ eDec.IsDecryption ∧
          [eDec, e].Sublist (incomingSpa env opts clock s).2 := by
  obtain ⟨e, he, hc⟩ : ∃ e ∈ (incomingSpa (refEnv "k" refRequest) (refOpts "Y" false)
      (refClock 1762560000) (refServer [refStanza "k" ["tcp/22"]])).2,
      e.call = .addReplay (String.mk refPayload) true := by
    set_option maxRecDepth 8000 in decide
  exact ⟨_, _, _, _, e, _, _, he, hc, incomingSpa_insert_after_decryption he hc⟩

/-- Two stanzas under one key: the second's add_replay of the same digest is refused. -/
theorem digest_added_twice :
    (incomingSpa (refEnv "k" refRequest) (refOpts "Y" false) (refClock 1762560000)
        (refServer [refStanza "k" ["tcp/80"], refStanza "k" ["tcp/22"]])).2.filterMap
      (fun e => match e.call with
        | .addReplay g ok => some (e.stanzaNum, g, ok)
        | _ => none) = [(1, String.mk refPayload, true), (2, String.mk refPayload, false)] ∧
    ∀ e ∈ (incomingSpa (refEnv "k" refRequest) (refOpts "Y" false) (refClock 1762560000)
        (refServer [refStanza "k" ["tcp/80"], refStanza "k" ["tcp/22"]])).2, ¬ e.call.IsAction := by
  set_option maxRecDepth 8000 in exact ⟨rfl, by decide⟩

/-- Alone the second stanza opens the firewall; after the first's insert nothing acts. -/
theorem earlier_insert_blocks_match :
    precheckPkt (refEnv "k" refRequest) (refOpts "Y" false) (refSlot refPayload) =
      .ok { refSlot refPayload with packetDataLen := 0 } ∧
    verdictOf (processSpaData (refEnv "k" refRequest) (refOpts "Y" false) (refClock 1762560000)
      { refSlot refPayload with packetDataLen := 0 } 1 (some (String.mk refPayload)) 120
      ⟨refStanza "k" ["tcp/80"], initSpaData { refSlot refPayload with packetDataLen := 0 }, [],
        []⟩) = .keepSearching ∧
    (∃ e ∈ (incomingSpa (refEnv "k" refRequest) (refOpts "Y" false) (refClock 1762560000)
        (refServer [refStanza "k" ["tcp/22"]])).2, e.call.IsAction) ∧
    ∀ e ∈ (incomingSpa (refEnv "k" refRequest) (refOpts "Y" false) (refClock 1762560000)
        (refServer [refStanza "k" ["tcp/80"], refStanza "k" ["tcp/22"]])).2, ¬ e.call.IsAction := by
  set_option maxRecDepth 8000 in exact ⟨rfl, by decide⟩

section TestMode

variable {clock : Clock}

/-- In test mode the store stays and the only actions are command-cycle opens. -/
theorem test_mode_effects (ht : opts.test = true) (s : Server σ) :
    (incomingSpa env opts clock s).1.store = s.store ∧
      (∀ e ∈ (incomingSpa env opts clock s).2, ∀ g ok, e.call ≠ .addReplay g ok) ∧
      ∀ e ∈ (incomingSpa env opts clock s).2, e.call.IsAction →
        e.acc.cmdCycleOpen.isSome ∧ ∃ sd n ok, e.call = .cmdCycleOpen sd n ok := by
  have hno : ∀ e ∈ (incomingSpa env opts clock s).2, ∀ g ok, e.call ≠ .addReplay g ok := by
    intro e he g ok hc
    obtain ⟨pkt, rd, -, -, hd⟩ := incomingSpa_inserts he
    simp [InsertsDigest, hc, ht] at hd
  refine ⟨?_, hno, fun e he ha => ?_⟩
  · have h : replayInserts env s.store (incomingSpa env opts clock s).2 =
        some (incomingSpa env opts clock s).1.store := incomingSpa_follows
    exact Option.some.inj (h.symm.trans (replayInserts_of_no_inserts hno))
  · obtain ⟨pkt, rd, age, -, -, -, -, hadm, -⟩ := incomingSpa_action he ha
    obtain ⟨ctx, m, w, -, -, -, hdisp⟩ := hadm.checked
    exact hdisp.test ht

theorem test_mode_effects_refServer :
    ∃ (env : Env (List String)) (opts : FkoSrvOptions) (clock : Clock) (s : Server (List String)),
      opts.test = true ∧ (incomingSpa env opts clock s).1.store = s.store ∧
      (∀ e ∈ (incomingSpa env opts clock s).2, ∀ g ok, e.call ≠ .addReplay g ok) ∧
      ∀ e ∈ (incomingSpa env opts clock s).2, e.call.IsAction →
        e.acc.cmdCycleOpen.isSome ∧ ∃ sd n ok, e.call = .cmdCycleOpen sd n ok :=
  ⟨refEnv "k" refRequest, refOpts "Y" true, refClock 1762560000,
    refServer [refStanza "k" ["tcp/22"]], rfl, test_mode_effects rfl _⟩

/-- In test mode a stanza with CMD_CYCLE_OPEN still runs cmd_cycle_open. -/
theorem test_mode_cycle_open :
    (refOpts "Y" true).test = true ∧
      ∃ e ∈ (incomingSpa (refEnv "k" refRequest) (refOpts "Y" true) (refClock 1762560000)
        (refServer [{ refStanza "k" ["tcp/22"] with cmdCycleOpen := some "open" }])).2,
        e.call.IsAction := by
  set_option maxRecDepth 8000 in decide

end TestMode

end Fwknopd
