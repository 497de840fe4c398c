import Fwknopd.Flow

/-! The helpers process_spa_data runs once a stanza matches the packet's addresses (lines
276-325, 600-824 and 917-937 of incoming_spa.c). -/
namespace Fwknopd

variable {σ : Type}

/-- handle_rijndael_enc: attempted_decrypt, cmd_exec_success and the context. -/
def handleRijndaelEnc (env : Env σ) (acc : AccStanza) (pkt : SpaPktInfo) (encType : EncType)
    (stanzaNum : Nat) :
    Spa σ (Bool × Bool × Option FkoCtx) :=
  if encType = .rijndael ∨ acc.enableCmdExec then do
    let r := env.fkoNewWithData pkt.packetData acc.keyMaterial pkt.sdpId
    emit stanzaNum (.fkoNewWithData pkt.packetData acc.keyMaterial pkt.sdpId r.isSome)
    pure (true, r.isSome, r)
  else pure (false, false, none)

/-- The key arguments handle_gpg_enc gives fko_new_with_data. -/
def gpgKeyMaterial (k : Consts) (acc : AccStanza) : KeyMaterial :=
  ⟨none, 0, k.fkoEncModeAsymmetric, acc.hmacKey, acc.hmacKeyLen, acc.hmacType⟩

def AccStanza.gpgParams (acc : AccStanza) : GpgParams :=
  ⟨acc.gpgExe, acc.gpgHomeDir, acc.gpgDecryptId, acc.gpgRequireSig,
    !acc.gpgRequireSig || acc.gpgIgnoreSigError⟩

/-- The GPG setters of handle_gpg_enc whose results the source ignores. -/
def gpgConfigure (env : Env σ) (acc : AccStanza) (ctx : FkoCtx) : FkoCtx :=
  let ctx := match acc.gpgDecryptId with
    | some id => env.fkoSetGpgRecipient ctx id
    | none => ctx
  if acc.gpgRequireSig then
    env.fkoSetGpgIgnoreVerifyError (env.fkoSetGpgSignatureVerify ctx true) acc.gpgIgnoreSigError
  else env.fkoSetGpgIgnoreVerifyError (env.fkoSetGpgSignatureVerify ctx false) true

/-- fko_set_gpg_exe and fko_set_gpg_home_dir, when set; `none` on a failure. -/
def gpgSetPaths (env : Env σ) (acc : AccStanza) (ctx : FkoCtx) : Option FkoCtx := do
  let ctx ← match acc.gpgExe with
    | some e => env.fkoSetGpgExe ctx e
    | none => pure ctx
  match acc.gpgHomeDir with
  | some d => env.fkoSetGpgHomeDir ctx d
  | none => pure ctx

/-- handle_gpg_enc: for GPG data the Rijndael key did not open; its `return 0` paths are the
caller's KEEP_SEARCHING. -/
def handleGpgEnc (env : Env σ) (acc : AccStanza) (pkt : SpaPktInfo) (attempted cmdExecSuccess : Bool)
    (encType : EncType) (stanzaNum : Nat) (res : Option FkoCtx) : Spa σ (Bool × Option FkoCtx) :=
  if acc.useGpg ∧ encType = .gpg ∧ cmdExecSuccess = false then
    if acc.gpgDecryptPw.isSome ∨ acc.gpgAllowNoPw then do
      let km := gpgKeyMaterial env.toConsts acc
      let r := env.fkoNewWithData pkt.packetData km pkt.sdpId
      emit stanzaNum (.fkoNewWithData pkt.packetData km pkt.sdpId r.isSome)
      let ctx ← need r .keepSearching
      let ctx ← need (gpgSetPaths env acc ctx) .keepSearching
      let r := env.fkoDecryptSpaData (gpgConfigure env acc ctx) acc.gpgDecryptPw
      emit stanzaNum (.fkoDecryptSpaData acc.gpgParams acc.gpgDecryptPw r.isSome)
      pure (true, r)
    else pure (attempted, res)
  else pure (attempted, res)

/-- check_mode_ctx: a decryption was attempted and its last step returned FKO_SUCCESS. -/
def checkModeCtx (attempted : Bool) (res : Option FkoCtx) : Option FkoCtx :=
  if attempted then res else none

/-- One allow-list walk of handle_gpg_sigs, with early exit; `none` when a comparison fails. -/
def gpgListMatch (m : String → Option Bool) : List String → Option Bool
  | [] => some false
  | s :: rest =>
    match m s with
    | none => none
    | some true => some true
    | some false => gpgListMatch m rest

/-- The walk finds the signer: an entry matches after entries compared without a match. -/
def ListedSigner (m : String → Option Bool) (l : List String) : Prop :=
  ∃ l₁ s l₂, l = l₁ ++ s :: l₂ ∧ (∀ t ∈ l₁, m t = some false) ∧ m s = some true

theorem listedSigner_cons {m : String → Option Bool} {s : String} {l : List String} :
    ListedSigner m (s :: l) ↔ m s = some true ∨ (m s = some false ∧ ListedSigner m l) := by
  constructor
  · rintro ⟨_ | ⟨t, l₁⟩, s', l₂, h, hpre, hs⟩
    · obtain ⟨rfl, rfl⟩ := List.cons.inj h
      exact .inl hs
    · obtain ⟨rfl, rfl⟩ := List.cons.inj h
      exact .inr ⟨hpre _ (List.mem_cons_self _ _), l₁, s', l₂, rfl,
        fun u hu => hpre u (List.mem_cons_of_mem _ hu), hs⟩
  · rintro (hs | ⟨hs, l₁, s', l₂, rfl, hpre, hs'⟩)
    · exact ⟨[], s, l, rfl, by simp, hs⟩
    · exact ⟨s :: l₁, s', l₂, rfl, by simpa [hs] using hpre, hs'⟩

theorem gpgListMatch_eq_some_true {m : String → Option Bool} {l : List String} :
    gpgListMatch m l = some true ↔ ListedSigner m l := by
  induction l with
  | nil => simp [gpgListMatch, ListedSigner]
  | cons s l ih =>
    rw [listedSigner_cons, ← ih]
    cases hs : m s with
    | none => simp [gpgListMatch, hs]
    | some b => cases b <;> simp [gpgListMatch, hs]

theorem listedSigner_iff_exists {m : String → Option Bool} {l : List String}
    (h : ∀ t ∈ l, m t ≠ none) : ListedSigner m l ↔ ∃ t ∈ l, m t = some true := by
  induction l with
  | nil => simp [ListedSigner]
  | cons s l ih =>
    rw [listedSigner_cons, ih fun t ht => h t (List.mem_cons_of_mem _ ht)]
    cases hs : m s with
    | none => exact absurd hs (h s (List.mem_cons_self _ _))
    | some b => cases b <;> simp [hs]

/-- handle_gpg_sigs: under GPG_REQUIRE_SIG each configured allow-list holds the signer. -/
def handleGpgSigs (env : Env σ) (acc : AccStanza) (ctx : FkoCtx) (encType : EncType) : Bool :=
  if encType = .gpg ∧ acc.gpgRequireSig then
    match ctx.gpgSignatureId, ctx.gpgSignatureFpr with
    | some _, some _ =>
      (acc.gpgRemoteFpr.isNone ||
        gpgListMatch (env.fkoGpgSignatureFprMatch ctx) acc.gpgRemoteFprList == some true) &&
      (acc.gpgRemoteId.isNone ||
        gpgListMatch (env.fkoGpgSignatureIdMatch ctx) acc.gpgRemoteIdList == some true)
    | _, _ => false
  else true

/-- Read one field from the context, or leave with the fields read so far written. -/
def fetch {α : Type} (o : Option α) (set : SpaData → α → SpaData) : Spa σ Unit := do
  let a ← need o .keepSearching
  change fun w => { w with spadat := set w.spadat a }

/-- A libfko int written through (int *) into an unsigned int field: its value modulo 2^32. -/
def intAsUInt (x : Int) : Nat := (x % 2 ^ 32).toNat

/-- get_spa_data_fields, with its failure turned into the caller's KEEP_SEARCHING. -/
def getSpaDataFields (ctx : FkoCtx) : Spa σ Unit := do
  let _ ← need ctx.disableSdpMode .keepSearching
  fetch ctx.sdpId fun d x => { d with sdpId := x }
  fetch ctx.username fun d x => { d with username := x }
  fetch ctx.version fun d x => { d with version := x }
  fetch ctx.timestamp fun d x => { d with timestamp := x }
  fetch ctx.messageType fun d x => { d with messageType := x }
  fetch ctx.spaMessage fun d x => { d with spaMessage := x }
  fetch ctx.natAccess fun d x => { d with natAccess := x }
  fetch ctx.serverAuth fun d x => { d with serverAuth := x }
  fetch ctx.clientTimeout fun d x => { d with clientTimeout := intAsUInt x }

/-- add_replay_cache: outside test mode, insert the digest once under persistence; a failed
insert is KEEP_SEARCHING. -/
def addReplayCache (env : Env σ) (opts : FkoSrvOptions) (rawDigest : Option String)
    (added : Bool) (stanzaNum : Nat) : Spa σ Bool :=
  if !opts.test && !added && opts.is .enableDigestPersistence 'Y' then
    match rawDigest with
    | none => pure added
    | some d => do
      let w ← look
      let r := env.addReplay w.store d
      change fun w => { w with store := r.2 }
      emit stanzaNum (.addReplay d r.1)
      gate r.1 .keepSearching
      pure true
  else pure added

end Fwknopd
