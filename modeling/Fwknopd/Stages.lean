import Fwknopd.Effects

/-! Spec lemmas for the parts of process_spa_data: the calls each part can record, and what
it has established when it returns normally. -/
namespace Fwknopd

variable {σ : Type} {env : Env σ} {opts : FkoSrvOptions} {clock : Clock} {acc : AccStanza}
  {pkt : SpaPktInfo} {n : Nat} {w w' : Work σ} {now : Int}

def Passive (e : Event) : Prop := ¬ e.call.IsAction

section Passive

theorem Call.not_isAction_of_isAttempt {c : Call} (h : c.IsAttempt) : ¬ c.IsAction := by
  cases c <;> simp_all [Call.IsAttempt, Call.IsAction]

theorem handleRijndaelEnc_logs {t : EncType} :
    Keeps (Logs Passive) (handleRijndaelEnc env acc pkt t n) :=
  handleRijndaelEnc_keeps fun hc => Keeps.emit_logs fun _ _ => Call.not_isAction_of_isAttempt hc

theorem handleGpgEnc_logs {a c : Bool} {t : EncType} {res : Option FkoCtx} :
    Keeps (Logs Passive) (handleGpgEnc env acc pkt a c t n res) :=
  handleGpgEnc_keeps fun hc => Keeps.emit_logs fun _ _ => Call.not_isAction_of_isAttempt hc

theorem decrypt_logs : Keeps (Logs Passive) (decrypt env acc pkt n) :=
  decrypt_keeps fun hc => Keeps.emit_logs fun _ _ => Call.not_isAction_of_isAttempt hc

theorem addReplayCache_passive {rd : Option String} {added : Bool} :
    Keeps (Adds Passive) (addReplayCache env opts rd added n) :=
  addReplayCache_keeps (Keeps.change fun _ => rfl) (Keeps.emit fun _ _ => id)

theorem validate_passive {rd : Option String} {age : Int} {t : EncType} {ctx : FkoCtx} :
    Keeps (Adds Passive) (validate env opts clock acc n rd age t ctx) :=
  validate_keeps Keeps.change_spadat_adds addReplayCache_passive

end Passive

section Decryption

/-- The GPG decryption handle_gpg_enc makes for a stanza. -/
def gpgDecrypt (env : Env σ) (acc : AccStanza) (pkt : SpaPktInfo) : Option FkoCtx := do
  let ctx ← env.fkoNewWithData pkt.packetData (gpgKeyMaterial env.toConsts acc) pkt.sdpId
  let ctx ← gpgSetPaths env acc ctx
  env.fkoDecryptSpaData (gpgConfigure env acc ctx) acc.gpgDecryptPw

/-- libfko opened the packet into `ctx` with the stanza's own Rijndael or GPG keys. -/
def DecryptedBy (env : Env σ) (acc : AccStanza) (pkt : SpaPktInfo) (ctx : FkoCtx) : Prop :=
  (acc.useRijndael ∧ env.fkoNewWithData pkt.packetData acc.keyMaterial pkt.sdpId = some ctx) ∨
    (acc.useGpg ∧ gpgDecrypt env acc pkt = some ctx)

def Event.IsDecryption (e : Event) : Prop :=
  (∃ data id, e.call = .fkoNewWithData data e.acc.keyMaterial id true) ∨
    e.call = .fkoDecryptSpaData e.acc.gpgParams e.acc.gpgDecryptPw true

theorem handleRijndaelEnc_ok {t : EncType} {a c : Bool} {res : Option FkoCtx}
    (h : handleRijndaelEnc env acc pkt t n w = .ok (a, c, res) w') :
    c = res.isSome ∧ (a = true → res = env.fkoNewWithData pkt.packetData acc.keyMaterial pkt.sdpId ∧
      ⟨n, w.acc, w.spadat, .fkoNewWithData pkt.packetData acc.keyMaterial pkt.sdpId res.isSome⟩ ∈
        w'.calls) ∧ (a = false → res = none) := by
  unfold handleRijndaelEnc at h
  split_ifs at h
  · simp only [bind_ok_iff, emit_ok_iff, pure_ok_iff, Prod.mk.injEq] at h
    obtain ⟨_, _, rfl, ⟨rfl, rfl, rfl⟩, rfl⟩ := h
    simp
  · simp only [pure_ok_iff, Prod.mk.injEq] at h
    obtain ⟨⟨rfl, rfl, rfl⟩, rfl⟩ := h
    simp

theorem handleGpgEnc_ok {a c a' : Bool} {t : EncType} {res res' : Option FkoCtx}
    (h : handleGpgEnc env acc pkt a c t n res w = .ok (a', res') w') :
    (a' = a ∧ res' = res) ∨ (acc.useGpg = true ∧ a' = true ∧ res' = gpgDecrypt env acc pkt ∧
      ⟨n, w.acc, w.spadat, .fkoDecryptSpaData acc.gpgParams acc.gpgDecryptPw res'.isSome⟩ ∈ w'.calls) := by
  unfold handleGpgEnc at h
  split_ifs at h with h₁ h₂
  · simp only [bind_ok_iff, emit_ok_iff, need_ok_iff, pure_ok_iff, Prod.mk.injEq] at h
    obtain ⟨_, _, rfl, _, _, ⟨h₃, rfl⟩, _, _, ⟨h₄, rfl⟩, _, _, rfl, ⟨rfl, rfl⟩, rfl⟩ := h
    exact .inr ⟨h₁.1, rfl, by simp [gpgDecrypt, h₃, h₄], by simp⟩
  all_goals
    obtain ⟨h, -⟩ := pure_ok_iff.1 h
    obtain ⟨rfl, rfl⟩ := Prod.mk.inj h
    exact .inl ⟨rfl, rfl⟩

theorem checkModeCtx_eq_some {a : Bool} {res : Option FkoCtx} {ctx : FkoCtx} :
    checkModeCtx a res = some ctx ↔ a = true ∧ res = some ctx := by
  cases a <;> simp [checkModeCtx]

/-- A normal return of the decryption step, for the packet's encryption type. -/
theorem decrypt_ok {t : EncType} {ctx : FkoCtx} (hacc : w.acc = acc)
    (h : decrypt env acc pkt n w = .ok (t, ctx) w') :
    t = env.fkoEncryptionType pkt.packetData ∧ DecryptedBy env acc pkt ctx ∧
      ∃ e ∈ w'.calls, e.stanzaNum = n ∧ e.acc = acc ∧ e.spadat = w.spadat ∧ e.IsDecryption := by
  unfold decrypt at h
  split_ifs at h with hr
  all_goals
    simp only [bind_ok_iff, need_ok_iff, pure_ok_iff, Prod.mk.injEq, checkModeCtx_eq_some] at h
    obtain ⟨⟨a, c, res⟩, w₁, h₁, ⟨a', res'⟩, w₂, h₂, ctx', _, ⟨⟨ha, hres⟩, rfl⟩, ⟨rfl, rfl⟩, rfl⟩ := h
    dsimp only at ha hres h₂
    have hsub := (handleGpgEnc_logs.of_ok h₂).subset
  rotate_left
  · -- no Rijndael attempt: only the GPG path can have opened the packet
    simp only [pure_ok_iff, Prod.mk.injEq] at h₁
    obtain ⟨⟨rfl, rfl, rfl⟩, rfl⟩ := h₁
    rcases handleGpgEnc_ok h₂ with ⟨rfl, -⟩ | ⟨hg, -, hd, he⟩
    · cases ha
    · exact ⟨rfl, .inr ⟨hg, hd.symm.trans hres⟩, _, he, rfl, hacc, rfl, .inr (by simp [hres, hacc])⟩
  · obtain ⟨_, rfl, -⟩ := handleRijndaelEnc_logs.of_ok h₁
    rcases handleGpgEnc_ok h₂ with ⟨rfl, rfl⟩ | ⟨hg, -, hd, he⟩
    · obtain ⟨hk, he⟩ := (handleRijndaelEnc_ok h₁).2.1 ha
      exact ⟨rfl, .inl ⟨hr, hk.symm.trans hres⟩, _, hsub he, rfl, hacc, rfl,
        .inl ⟨pkt.packetData, pkt.sdpId, by simp [hres, hacc]⟩⟩
    · exact ⟨rfl, .inr ⟨hg, hd.symm.trans hres⟩, _, he, rfl, hacc, rfl, .inr (by simp [hres, hacc])⟩

end Decryption

section Validation

variable {rd : Option String} {age : Int} {t : EncType} {ctx : FkoCtx} {m : MsgType}
  {sd : SpaData}

theorem addReplayCache_ok {b : Bool} (h : addReplayCache env opts rd false n w = .ok b w') :
    (w' = w ∧ (opts.test = true ∨ opts.is .enableDigestPersistence 'Y' = false ∨ rd = none)) ∨
      ∃ d, rd = some d ∧ opts.test = false ∧ opts.is .enableDigestPersistence 'Y' = true ∧
        (env.addReplay w.store d).1 = true ∧
        w' = { w with
          store := (env.addReplay w.store d).2
          calls := w.calls ++ [⟨n, w.acc, w.spadat, .addReplay d true⟩] } := by
  unfold addReplayCache at h
  split_ifs at h with hc
  · simp only [Bool.and_eq_true, Bool.not_eq_true'] at hc
    split at h
    · exact .inl ⟨(pure_ok_iff.1 h).2.symm, .inr (.inr rfl)⟩
    · rename_i d
      obtain ⟨_, _, he, h⟩ := bind_ok_iff.1 (change_bind_ok (look_bind_ok h))
      obtain ⟨hr, h⟩ := gate_bind_ok h
      obtain ⟨-, rfl⟩ := pure_ok_iff.1 h
      obtain rfl := emit_ok_iff.1 he
      exact .inr ⟨d, rfl, hc.1.1, hc.2, hr, by simp [hr]⟩
  · refine .inl ⟨(pure_ok_iff.1 h).2.symm, ?_⟩
    revert hc
    cases opts.test <;> cases opts.is .enableDigestPersistence 'Y' <;> simp

/-- get_spa_data_fields read the context into `sd`, client_timeout as the unsigned field. -/
def FkoCtx.Read (ctx : FkoCtx) (sd : SpaData) : Prop :=
  ctx.disableSdpMode.isSome ∧ ctx.sdpId = some sd.sdpId ∧ ctx.username = some sd.username ∧
    ctx.version = some sd.version ∧ ctx.timestamp = some sd.timestamp ∧
    ctx.messageType = some sd.messageType ∧ ctx.spaMessage = some sd.spaMessage ∧
    ctx.natAccess = some sd.natAccess ∧ ctx.serverAuth = some sd.serverAuth ∧
    ctx.clientTimeout.map intAsUInt = some sd.clientTimeout

theorem fetch_ok {α : Type} {o : Option α} {set : SpaData → α → SpaData} {u : Unit} :
    fetch o set w = .ok u w' ↔ ∃ a, o = some a ∧ w' = { w with spadat := set w.spadat a } := by
  simp only [fetch, bind_ok_iff, need_ok_iff, change_ok_iff]
  constructor
  · rintro ⟨a, _, ⟨ha, rfl⟩, rfl⟩
    exact ⟨a, ha, rfl⟩
  · rintro ⟨a, ha, rfl⟩
    exact ⟨a, _, ⟨ha, rfl⟩, rfl⟩

theorem fetch_bind_ok {α β : Type} {o : Option α} {set : SpaData → α → SpaData}
    {f : Unit → Spa σ β} {b : β} (h : (fetch o set >>= f) w = .ok b w') :
    ∃ a w₁, o = some a ∧ w₁.spadat = set w.spadat a ∧ f () w₁ = .ok b w' := by
  obtain ⟨_, w₁, h₁, h⟩ := bind_ok_iff.1 h
  obtain ⟨a, ha, rfl⟩ := fetch_ok.1 h₁
  exact ⟨a, _, ha, rfl, h⟩

theorem getSpaDataFields_spadatOnly : Keeps SpadatOnly (getSpaDataFields (σ := σ) ctx) :=
  getSpaDataFields_keeps Keeps.change_spadat

theorem getSpaDataFields_ok {u : Unit} (h : getSpaDataFields ctx w = .ok u w') :
    ctx.Read w'.spadat := by
  obtain ⟨_, _, hn, h⟩ := bind_ok_iff.1 h
  obtain ⟨h₀, rfl⟩ := need_ok_iff.1 hn
  obtain ⟨_, _, h₁, e₁, h⟩ := fetch_bind_ok h
  obtain ⟨_, _, h₂, e₂, h⟩ := fetch_bind_ok h
  obtain ⟨_, _, h₃, e₃, h⟩ := fetch_bind_ok h
  obtain ⟨_, _, h₄, e₄, h⟩ := fetch_bind_ok h
  obtain ⟨_, _, h₅, e₅, h⟩ := fetch_bind_ok h
  obtain ⟨_, _, h₆, e₆, h⟩ := fetch_bind_ok h
  obtain ⟨_, _, h₇, e₇, h⟩ := fetch_bind_ok h
  obtain ⟨_, _, h₈, e₈, h⟩ := fetch_bind_ok h
  obtain ⟨_, h₉, rfl⟩ := fetch_ok.1 h
  simp only [FkoCtx.Read, h₀, h₁, h₂, h₃, h₄, h₅, h₆, h₇, h₈, h₉, e₁, e₂, e₃, e₄, e₅, e₆, e₇, e₈]
  simp

theorem splitSpaMessage_spadatOnly {k : Consts} : Keeps SpadatOnly (splitSpaMessage (σ := σ) k) :=
  splitSpaMessage_keeps Keeps.change_spadat

theorem splitSpaMessage_ok {k : Consts} {u : Unit} (h : splitSpaMessage k w = .ok u w') :
    isValidIpv4Addr w'.spadat.spaMessageSrcIp = true ∧
      w'.spadat = { w.spadat with
        pktSourceIp := w'.spadat.pktSourceIp
        spaMessageSrcIp := w'.spadat.spaMessageSrcIp
        spaMessageRemain := w'.spadat.spaMessageRemain } := by
  obtain ⟨_, -, h⟩ := need_bind_ok (look_bind_ok h)
  obtain ⟨-, h⟩ := gate_bind_ok h
  obtain ⟨hv, h⟩ := gate_bind_ok (change_bind_ok h)
  obtain rfl := change_ok_iff.1 h
  exact ⟨by simpa using hv, by rw [copySrcIp_eq]⟩

theorem checkSrcAccess_snd : (checkSrcAccess acc sd).2 =
    { sd with useSrcIp := (checkSrcAccess acc sd).2.useSrcIp } := by
  unfold checkSrcAccess
  split_ifs <;> rfl

theorem checkSrcAccess_idem (h : (checkSrcAccess acc sd).1 = true) :
    checkSrcAccess acc (checkSrcAccess acc sd).2 = (true, (checkSrcAccess acc sd).2) := by
  unfold checkSrcAccess at *
  by_cases hz : strcmpEq sd.spaMessageSrcIp "0.0.0.0".data
  · cases hr : acc.requireSourceAddress
    · simp [hz, hr]
    · simp [hz, hr] at h
  · simp [hz]

/-- The gates of lines 1078-1190 validate has passed, each as it holds of `sd`. -/
structure Validated (env : Env σ) (opts : FkoSrvOptions) (clock : Clock) (acc : AccStanza)
    (n : Nat) (age : Int) (t : EncType) (ctx : FkoCtx) (m : MsgType) (sd : SpaData) : Prop where
  msgType : ctx.messageType = some m
  current : m.IsCurrent ∨ opts.is .allowLegacyAccessRequests 'N' = false
  signer : handleGpgSigs env acc ctx t = true
  read : ctx.Read sd
  fresh : checkPktAge opts sd (clock.age n) age = true
  srcIp : isValidIpv4Addr sd.spaMessageSrcIp = true
  srcAccess : checkSrcAccess acc sd = (true, sd)
  username : opts.is .disableSdpMode 'Y' = true → checkUsername acc sd = true
  nat : checkNatAccessTypes env.firewall opts sd.messageType = true

theorem validate_ok (h : validate env opts clock acc n rd age t ctx w = .ok m w') :
    ∃ b w₁, addReplayCache env opts rd false n w = .ok b w₁ ∧ SpadatOnly w₁ w' ∧
      Validated env opts clock acc n age t ctx m w'.spadat ∧
      setTimeout env.toConsts acc w'.spadat = w'.spadat := by
  unfold validate at h
  obtain ⟨b, w₁, hc, h⟩ := bind_ok_iff.1 h
  refine ⟨b, w₁, hc, ?_⟩
  obtain ⟨m', hm, h⟩ := need_bind_ok h
  obtain ⟨hcur, h⟩ := gate_bind_ok h
  obtain ⟨hsig, h⟩ := gate_bind_ok h
  obtain ⟨_, w₂, hf, h⟩ := bind_ok_iff.1 h
  obtain ⟨hage, h⟩ := gate_bind_ok (look_bind_ok (change_bind_ok h))
  obtain ⟨_, w₃, hs, h⟩ := bind_ok_iff.1 h
  obtain ⟨hsrc, h⟩ := gate_bind_ok (change_bind_ok (look_bind_ok h))
  have hsd : SpadatOnly w₁ { w₃ with spadat := (checkSrcAccess acc w₃.spadat).2 } :=
    ((getSpaDataFields_spadatOnly.of_ok hf).trans ⟨rfl, rfl, rfl⟩).trans
      ((splitSpaMessage_spadatOnly.of_ok hs).trans ⟨rfl, rfl, rfl⟩)
  have hread := getSpaDataFields_ok hf
  obtain ⟨hv, hw₃⟩ := splitSpaMessage_ok hs
  have hread' : ctx.Read (checkSrcAccess acc w₃.spadat).2 := by
    rw [checkSrcAccess_snd, hw₃]
    simpa [FkoCtx.Read, setTimeout] using hread
  have hfresh : checkPktAge opts (checkSrcAccess acc w₃.spadat).2 (clock.age n) age = true := by
    rw [checkSrcAccess_snd, hw₃]
    simpa [checkPktAge, setTimeout] using hage
  have hv' : isValidIpv4Addr (checkSrcAccess acc w₃.spadat).2.spaMessageSrcIp = true := by
    rwa [checkSrcAccess_snd]
  have hset : setTimeout env.toConsts acc (checkSrcAccess acc w₃.spadat).2 =
      (checkSrcAccess acc w₃.spadat).2 := by
    rw [checkSrcAccess_snd, hw₃]
    simp [setTimeout]
  have hcur' : m'.IsCurrent ∨ opts.is .allowLegacyAccessRequests 'N' = false := by
    simpa using hcur
  split_ifs at h with hsdp
  · obtain ⟨hu, h⟩ := gate_bind_ok (look_bind_ok h)
    obtain ⟨hnat, h⟩ := gate_bind_ok (look_bind_ok h)
    obtain ⟨rfl, rfl⟩ := pure_ok_iff.1 h
    exact ⟨hsd, ⟨hm, hcur', hsig, hread', hfresh, hv', checkSrcAccess_idem hsrc, fun _ => hu, hnat⟩,
      hset⟩
  · obtain ⟨hnat, h⟩ := gate_bind_ok (look_bind_ok (pure_bind_ok h))
    obtain ⟨rfl, rfl⟩ := pure_ok_iff.1 h
    exact ⟨hsd, ⟨hm, hcur', hsig, hread', hfresh, hv', checkSrcAccess_idem hsrc,
      fun h => absurd h hsdp, hnat⟩, hset⟩

end Validation

section Dispatch

variable {m : MsgType} {e : Event}

/-- The ACL admits the remainder (lines 1222-1243); `sd'` is what the request carries. -/
def AclAdmits (env : Env σ) (acc : AccStanza) (m : MsgType) (sd sd' : SpaData) : Prop :=
  if m.IsService then
    env.accCheckServiceAccess acc sd.spaMessageRemain = true ∧
      ∃ l, env.getServiceDataList sd.spaMessageRemain = some l ∧
        sd' = { sd with serviceDataList := some l }
  else env.accCheckPortAccess acc sd.spaMessageRemain = true ∧ sd' = sd

/-- The actions dispatch takes for the stanza `acc`, number `n`, on a message of type `m`. -/
inductive Dispatches (env : Env σ) (opts : FkoSrvOptions) (acc : AccStanza) (n : Nat)
    (m : MsgType) (w : Work σ) : Event → Prop
  /-- Line 1194, ahead of the ACL and of the test-mode check. -/
  | cycleOpen : acc.cmdCycleOpen.isSome →
    Dispatches env opts acc n m w
      ⟨n, w.acc, w.spadat, .cmdCycleOpen w.spadat n (env.cmdCycleOpen acc w.spadat n)⟩
  /-- Lines 1202-1212 and process_cmd_msg. -/
  | command {cmd : CStr} : acc.cmdCycleOpen = none → w.spadat.messageType = .command →
    acc.enableCmdExec = true → opts.test = false →
    cmdBuf env.toConsts opts acc w.spadat.spaMessageRemain = some cmd →
    Dispatches env opts acc n m w ⟨n, w.acc, w.spadat, cmdCall acc cmd⟩
  /-- Lines 1222-1267. -/
  | request {sd : SpaData} : acc.cmdCycleOpen = none → w.spadat.messageType ≠ .command →
    opts.test = false → AclAdmits env acc m w.spadat sd →
    Dispatches env opts acc n m w ⟨n, w.acc, sd, .processSpaRequest sd⟩

theorem processCmdMsg_records (h : Records (processCmdMsg env opts acc n) w e)
    (ha : e.call.IsAction) : acc.enableCmdExec = true ∧ opts.test = false ∧
      ∃ cmd, cmdBuf env.toConsts opts acc w.spadat.spaMessageRemain = some cmd ∧
        e = ⟨n, w.acc, w.spadat, cmdCall acc cmd⟩ := by
  unfold processCmdMsg at h
  split_ifs at h with h₁ h₂
  · exact absurd h Records.not_pure
  · exact absurd h Records.not_pure
  · obtain ⟨_, _, hl, h⟩ := Records.bind_quiet Keeps.look h
    obtain ⟨rfl, rfl⟩ := look_ok_iff.1 hl
    split at h
    · obtain ⟨rfl, -⟩ := Records.emit.1 (Records.of_bind_pure h)
      exact absurd ha id
    · obtain ⟨rfl, -⟩ := Records.emit.1 (Records.of_bind_pure h)
      exact ⟨by simpa using h₁, by simpa using h₂, _, ‹_›, rfl⟩

theorem requestAccess_records (h : Records (requestAccess env acc n) w e)
    (hc : acc.cmdCycleOpen = none) : e = ⟨n, w.acc, w.spadat, .processSpaRequest w.spadat⟩ := by
  unfold requestAccess at h
  obtain ⟨_, _, hl, h⟩ := Records.bind_quiet Keeps.look h
  obtain ⟨rfl, rfl⟩ := look_ok_iff.1 hl
  split at h
  · simp_all
  · exact (Records.emit.1 (Records.of_bind_pure h)).1

theorem dispatch_records (h : Records (dispatch env opts acc n m) w e) (ha : e.call.IsAction) :
    Dispatches env opts acc n m w e := by
  unfold dispatch at h
  obtain ⟨_, _, hl, h⟩ := Records.bind_quiet Keeps.look h
  obtain ⟨rfl, rfl⟩ := look_ok_iff.1 hl
  split at h
  · obtain ⟨rfl, -⟩ := Records.emit.1 (Records.of_bind_pure h)
    exact .cycleOpen (by simp [*])
  split at h
  · obtain ⟨hx, ht, cmd, hb, rfl⟩ := processCmdMsg_records (Records.of_bind_pure h) ha
    exact .command ‹_› ‹_› hx ht hb
  have hreq : ∀ w', Records (if opts.test = true then pure .keepSearching
      else requestAccess env acc n) w' e →
      opts.test = false ∧ e = ⟨n, w'.acc, w'.spadat, .processSpaRequest w'.spadat⟩ := by
    intro w' h
    split_ifs at h with ht
    · exact absurd h Records.not_pure
    · exact ⟨by simpa using ht, requestAccess_records h ‹_›⟩
  dsimp only at h
  split at h
  · obtain ⟨_, _, hg, h⟩ := Records.bind_quiet (Keeps.gate _ _) h
    obtain ⟨hacl, rfl⟩ := gate_ok_iff.1 hg
    obtain ⟨l, _, hn, h⟩ := Records.bind_quiet (Keeps.need _ _) h
    obtain ⟨hl, rfl⟩ := need_ok_iff.1 hn
    obtain ⟨_, _, hch, h⟩ := Records.bind_quiet Keeps.change_spadat_adds h
    obtain rfl := change_ok_iff.1 hch
    obtain ⟨ht, rfl⟩ := hreq _ h
    exact .request ‹_› ‹_› ht (by simp [AclAdmits, *])
  · obtain ⟨_, _, hg, h⟩ := Records.bind_quiet (Keeps.gate _ _) h
    obtain ⟨hacl, rfl⟩ := gate_ok_iff.1 hg
    obtain ⟨ht, rfl⟩ := hreq _ h
    exact .request ‹_› ‹_› ht (by simp [AclAdmits, *])

theorem dispatch_adds {P : Event → Prop} (hP : ∀ e, P e) :
    Keeps (Adds P) (dispatch env opts acc n m) :=
  dispatch_keeps (fun _ => Keeps.emit fun _ _ => hP _) Keeps.change_spadat_adds

end Dispatch

section Process

variable {rd : Option String} {age : Int} {e : Event}

/-- What process_spa_data has established of the stanza `acc`, number `n`, when it records
the action `e`. -/
structure Admitted (env : Env σ) (opts : FkoSrvOptions) (clock : Clock) (pkt : SpaPktInfo)
    (n : Nat) (age : Int) (acc : AccStanza) (e : Event) : Prop where
  source : env.compareAddrList acc.sourceList pkt.packetSrcIp = true
  destination : ∀ l, acc.destinationList = some l → env.compareAddrList l pkt.packetDstIp = true
  live : 0 < acc.accessExpireTime → acc.expired = false ∧ clock.expiry n ≤ acc.accessExpireTime
  checked : ∃ ctx m, ∃ w : Work σ, w.acc = acc ∧ DecryptedBy env acc pkt ctx ∧
    Validated env opts clock acc n age (env.fkoEncryptionType pkt.packetData) ctx m w.spadat ∧
    Dispatches env opts acc n m w e

theorem checkStanzaExpiration_snd_of_fst (h : (checkStanzaExpiration acc now).1 = true) :
    (checkStanzaExpiration acc now).2 = acc := by
  rcases checkStanzaExpiration_snd with h₂ | ⟨-, hpos, -, hlt⟩
  · exact h₂
  · have := (checkStanzaExpiration_fst.1 h hpos).2
    omega

theorem Dispatches.acc_num {m : MsgType} {w : Work σ} (h : Dispatches env opts acc n m w e) :
    e.stanzaNum = n ∧ e.acc = w.acc := by
  cases h <;> exact ⟨rfl, rfl⟩

theorem Dispatches.spadat {m : MsgType} {w : Work σ} (h : Dispatches env opts acc n m w e) :
    e.spadat = w.spadat ∨ ∃ l, e.spadat = { w.spadat with serviceDataList := some l } := by
  cases h with
  | cycleOpen => exact .inl rfl
  | command => exact .inl rfl
  | request _ _ _ hacl =>
    unfold AclAdmits at hacl
    split_ifs at hacl
    · obtain ⟨-, l, -, rfl⟩ := hacl
      exact .inr ⟨l, rfl⟩
    · exact .inl hacl.2

theorem Dispatches.test {m : MsgType} {w : Work σ} (h : Dispatches env opts acc n m w e)
    (ht : opts.test = true) : acc.cmdCycleOpen.isSome ∧ ∃ sd k ok, e.call = .cmdCycleOpen sd k ok := by
  cases h with
  | cycleOpen hc => exact ⟨hc, _, _, _, rfl⟩
  | command _ _ _ ht' => simp [ht] at ht'
  | request _ _ ht' => simp [ht] at ht'

theorem processSpaData_of_decrypt {t : EncType} {ctx : FkoCtx} {w₂ : Work σ}
    (hsd : srcDstCheck env w.acc pkt = true)
    (hlive : (checkStanzaExpiration w.acc (clock.expiry n)).1 = true)
    (hd : decrypt env w.acc pkt n w = .ok (t, ctx) w₂) :
    processSpaData env opts clock pkt n rd age w =
      (validate env opts clock w.acc n rd age t ctx >>= dispatch env opts w.acc n) w₂ := by
  unfold processSpaData
  rw [look_bind_apply, gate_bind_apply hsd, change_bind_apply, gate_bind_apply hlive,
    checkStanzaExpiration_snd_of_fst hlive]
  exact bind_apply_of_ok hd

theorem processSpaData_decrypted (h : Records (processSpaData env opts clock pkt n rd age) w e)
    (he : ¬ e.call.IsAttempt) :
    srcDstCheck env w.acc pkt = true ∧ (checkStanzaExpiration w.acc (clock.expiry n)).1 = true ∧
      ∃ t ctx w₂, decrypt env w.acc pkt n w = .ok (t, ctx) w₂ ∧
        Records (validate env opts clock w.acc n rd age t ctx >>= dispatch env opts w.acc n) w₂ e ∧
        processSpaData env opts clock pkt n rd age w =
          (validate env opts clock w.acc n rd age t ctx >>= dispatch env opts w.acc n) w₂ := by
  unfold processSpaData at h
  obtain ⟨hsd, h⟩ := Records.gate_bind (Records.look_bind h)
  obtain ⟨hlive, h⟩ := Records.gate_bind (Records.change_bind h rfl)
  rw [checkStanzaExpiration_snd_of_fst hlive] at h
  obtain ⟨⟨t, ctx⟩, w₂, hd, h⟩ :=
    Records.bind (P := fun e => e.call.IsAttempt)
      (decrypt_keeps fun hc => Keeps.emit fun _ _ => hc) he h
  exact ⟨hsd, hlive, t, ctx, w₂, hd, h, processSpaData_of_decrypt hsd hlive hd⟩

theorem processSpaData_stamps (h : Records (processSpaData env opts clock pkt n rd age) w e) :
    e.stanzaNum = n ∧ e.acc = w.acc := by
  unfold processSpaData at h
  obtain ⟨-, h⟩ := Records.gate_bind (Records.look_bind h)
  obtain ⟨hlive, h⟩ := Records.gate_bind (Records.change_bind h rfl)
  have hchange : ∀ {g : Work σ → SpaData},
      Keeps (Stamped n) (change fun w => { w with spadat := g w }) :=
    Keeps.change_stamped fun _ => ⟨rfl, rfl⟩
  have hst := h.of_stamped (Keeps.bind (decrypt_keeps fun _ => Keeps.emit_stamped) fun ⟨_, _⟩ =>
    Keeps.bind (validate_keeps hchange (addReplayCache_keeps
      (Keeps.change_stamped fun _ => ⟨rfl, rfl⟩) Keeps.emit_stamped)) fun _ =>
    dispatch_keeps (fun _ => Keeps.emit_stamped) hchange)
  exact ⟨hst.1, hst.2.trans (checkStanzaExpiration_snd_of_fst hlive)⟩

/-- An action process_spa_data records was admitted, after the stanza's decryption and commit. -/
theorem processSpaData_records (h : Records (processSpaData env opts clock pkt n rd age) w e)
    (ha : e.call.IsAction) : e.stanzaNum = n ∧ e.acc = w.acc ∧
      Admitted env opts clock pkt n age w.acc e ∧
      ∃ eDec, eDec.stanzaNum = n ∧ eDec.acc = w.acc ∧ eDec.IsDecryption ∧
        [eDec, e].Sublist (workOf (processSpaData env opts clock pkt n rd age w)).calls ∧
        ∀ d, rd = some d → opts.test = false → opts.is .enableDigestPersistence 'Y' = true →
          ∃ sd, [eDec, ⟨n, w.acc, sd, .addReplay d true⟩, e].Sublist
            (workOf (processSpaData env opts clock pkt n rd age w)).calls := by
  obtain ⟨hn, hacc⟩ := processSpaData_stamps h
  obtain ⟨hsd, hlive, t, ctx, w₂, hd, h, hwork⟩ :=
    processSpaData_decrypted h fun hc => Call.not_isAction_of_isAttempt hc ha
  rw [hwork]
  obtain ⟨rfl, hdec, eDec, heDec, hn', heacc, -, hdec'⟩ := decrypt_ok rfl hd
  obtain ⟨_, rfl, -⟩ := decrypt_logs.of_ok hd
  obtain ⟨m, w₃, hv, h⟩ := Records.bind validate_passive (fun hp => hp ha) h
  rw [bind_apply_of_ok hv]
  obtain ⟨b, w₂, hrc, ⟨-, -, hcalls₃⟩, hval, -⟩ := validate_ok hv
  have hsub : ∀ {l : List Event}, l.Sublist w₃.calls → (l ++ [e]).Sublist _ :=
    Records.sublist (dispatch_adds fun _ => trivial) h
  have hdisp := dispatch_records h ha
  obtain ⟨hsrc, hdst⟩ := srcDstCheck_eq_true.1 hsd
  -- the decryption stays recorded after add_replay_cache, and the insert it commits follows it
  have hrc' : eDec ∈ w₃.calls ∧ ∀ d, rd = some d → opts.test = false →
      opts.is .enableDigestPersistence 'Y' = true →
      [eDec, ⟨n, w.acc, w.spadat, .addReplay d true⟩].Sublist w₃.calls := by
    rw [hcalls₃]
    rcases addReplayCache_ok hrc with ⟨rfl, hno⟩ | ⟨d, hrd, -, -, -, rfl⟩
    · refine ⟨heDec, ?_⟩
      rintro d rfl ht hp
      simp [ht, hp] at hno
    · refine ⟨List.mem_append_left _ heDec, ?_⟩
      rintro d' hd' - -
      obtain rfl : d' = d := Option.some.inj (hd'.symm.trans hrd)
      simpa using (List.singleton_sublist.2 heDec).append (List.Sublist.refl [_])
  exact ⟨hn, hacc, ⟨hsrc, hdst, checkStanzaExpiration_fst.1 hlive, ctx, m, w₃,
      hdisp.acc_num.2.symm.trans hacc, hdec, hval, hdisp⟩,
    eDec, hn', heacc, hdec', hsub (List.singleton_sublist.2 hrc'.1),
    fun d hd ht hp => ⟨_, hsub (hrc'.2 d hd ht hp)⟩⟩

theorem processSpaData_insert {g : String} {ok : Bool}
    (h : Records (processSpaData env opts clock pkt n rd age) w e) (hc : e.call = .addReplay g ok) :
    e.stanzaNum = n ∧ e.acc = w.acc ∧ ∃ eDec, eDec.stanzaNum = n ∧ eDec.acc = w.acc ∧
      eDec.IsDecryption ∧
      [eDec, e].Sublist (workOf (processSpaData env opts clock pkt n rd age w)).calls := by
  obtain ⟨hn, hacc⟩ := processSpaData_stamps h
  obtain ⟨-, -, t, ctx, w₂, hd, h, hwork⟩ :=
    processSpaData_decrypted h (by simp [hc, Call.IsAttempt])
  obtain ⟨-, -, eDec, heDec, hn', heacc, -, hdec⟩ := decrypt_ok rfl hd
  rw [hwork]
  exact ⟨hn, hacc, eDec, hn', heacc, hdec, Records.sublist (Keeps.bind
    (validate_passive.mono fun _ _ => trivial) fun _ => dispatch_adds fun _ => trivial) h
    (List.singleton_sublist.2 heDec)⟩

end Process

end Fwknopd
