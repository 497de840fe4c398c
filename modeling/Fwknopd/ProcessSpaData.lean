import Fwknopd.Command

/-! process_spa_data, lines 1000-1272 of incoming_spa.c: one stanza's checks from the address
match to the action, in the source's order, each early return a verdict. -/
namespace Fwknopd

variable {σ : Type}

def MsgType.IsCurrent (t : MsgType) : Prop :=
  t = .serviceAccess ∨ t = .clientTimeoutServiceAccess ∨ t = .command

instance : DecidablePred MsgType.IsCurrent := fun t =>
  inferInstanceAs (Decidable (t = .serviceAccess ∨ t = .clientTimeoutServiceAccess ∨ t = .command))

def MsgType.IsService (t : MsgType) : Prop := t = .serviceAccess ∨ t = .clientTimeoutServiceAccess

instance : DecidablePred MsgType.IsService := fun t =>
  inferInstanceAs (Decidable (t = .serviceAccess ∨ t = .clientTimeoutServiceAccess))

/-- Modelled from the spec: spa_message_src_ip is MAX_IPV4_STR_LEN bytes, pkt_source_ip
follows it (fwknopd_common.h, not under src/). -/
def spaMessageSrcIpSize (k : Consts) : Nat := k.maxIpv4StrLen

/-- The strlcpy of line 1153: what does not fit runs on into pkt_source_ip. -/
def copySrcIp (k : Consts) (src : CStr) (sd : SpaData) : SpaData :=
  if src.length < spaMessageSrcIpSize k then { sd with spaMessageSrcIp := src }
  else { sd with spaMessageSrcIp := src, pktSourceIp := src.drop (spaMessageSrcIpSize k) }

@[simp] theorem copySrcIp_spaMessageSrcIp (k : Consts) (src : CStr) (sd : SpaData) :
    (copySrcIp k src sd).spaMessageSrcIp = src := by
  unfold copySrcIp; split_ifs <;> rfl

theorem copySrcIp_eq (k : Consts) (src : CStr) (sd : SpaData) : copySrcIp k src sd =
    { sd with spaMessageSrcIp := src, pktSourceIp := (copySrcIp k src sd).pktSourceIp } := by
  unfold copySrcIp; split_ifs <;> rfl

/-- Lines 1134-1164: split the message at its first ',' into the source and the remainder. -/
def splitSpaMessage (k : Consts) : Spa σ Unit := do
  let msg := (← look).spadat.spaMessage
  let demark ← need (strchr msg ',') .keepSearching
  gate ((k.minIpv4StrLen : Int) - 1 ≤ demark ∧ demark ≤ k.maxIpv4StrLen) .stopSearching
  change fun w => { w with spadat := copySrcIp k (strlcpy msg (demark + 1)) w.spadat }
  gate (isValidIpv4Addr (strlcpy msg (demark + 1))) .stopSearching
  change fun w => { w with spadat :=
    { w.spadat with spaMessageRemain := strlcpy (msg.drop (demark + 1)) k.maxDecryptedSpaLen } }

/-- The firewall request of line 1267, after its dead command-cycle branch. -/
def requestAccess (env : Env σ) (acc : AccStanza) (stanzaNum : Nat) : Spa σ Verdict := do
  let w ← look
  match acc.cmdCycleOpen with
  | some _ => do
    let ok := env.cmdCycleOpen acc w.spadat stanzaNum
    emit stanzaNum (.cmdCycleOpen w.spadat stanzaNum ok)
    pure (if ok then .stopSearching else .keepSearching)
  | none => do
    emit stanzaNum (.processSpaRequest w.spadat)
    pure .stopSearching

/-- Lines 1192-1271: the command-cycle open, the command, or the ACL and the request. -/
def dispatch (env : Env σ) (opts : FkoSrvOptions) (acc : AccStanza) (stanzaNum : Nat)
    (msgType : MsgType) : Spa σ Verdict := do
  let w ← look
  match acc.cmdCycleOpen with
  | some _ => do
    let ok := env.cmdCycleOpen acc w.spadat stanzaNum
    emit stanzaNum (.cmdCycleOpen w.spadat stanzaNum ok)
    pure (if ok then .stopSearching else .keepSearching)
  | none =>
    if w.spadat.messageType = .command then do
      let ok ← processCmdMsg env opts acc stanzaNum
      pure (if ok then .stopSearching else .keepSearching)
    else do
      if msgType.IsService then do
        gate (env.accCheckServiceAccess acc w.spadat.spaMessageRemain) .stopSearching
        let l ← need (env.getServiceDataList w.spadat.spaMessageRemain) .stopSearching
        change fun w => { w with spadat := { w.spadat with serviceDataList := some l } }
      else gate (env.accCheckPortAccess acc w.spadat.spaMessageRemain) .keepSearching
      if opts.test then pure .keepSearching else requestAccess env acc stanzaNum

/-- Lines 1057-1190, between the decryption and the dispatch; it returns the message type. -/
def validate (env : Env σ) (opts : FkoSrvOptions) (clock : Clock) (acc : AccStanza)
    (stanzaNum : Nat) (rawDigest : Option String) (confPktAge : Int) (encType : EncType)
    (ctx : FkoCtx) : Spa σ MsgType := do
  let _ ← addReplayCache env opts rawDigest false stanzaNum
  let msgType ← need ctx.messageType .stopSearching
  gate (msgType.IsCurrent ∨ !opts.is .allowLegacyAccessRequests 'N') .stopSearching
  gate (handleGpgSigs env acc ctx encType) .keepSearching
  getSpaDataFields ctx
  change fun w => { w with spadat := setTimeout env.toConsts acc w.spadat }
  gate (checkPktAge opts (← look).spadat (clock.age stanzaNum) confPktAge) .keepSearching
  splitSpaMessage env.toConsts
  let r := checkSrcAccess acc (← look).spadat
  change fun w => { w with spadat := r.2 }
  gate r.1 .keepSearching
  if opts.is .disableSdpMode 'Y' then gate (checkUsername acc (← look).spadat) .keepSearching
  gate (checkNatAccessTypes env.firewall opts (← look).spadat.messageType) .keepSearching
  pure msgType

/-- Lines 1035-1055: the two decryption attempts and the context check. -/
def decrypt (env : Env σ) (acc : AccStanza) (pkt : SpaPktInfo) (stanzaNum : Nat) :
    Spa σ (EncType × FkoCtx) := do
  let encType := env.fkoEncryptionType pkt.packetData
  let (attempted, cmdExecSuccess, res) ←
    if acc.useRijndael then handleRijndaelEnc env acc pkt encType stanzaNum
    else pure (false, false, none)
  let (attempted, res) ← handleGpgEnc env acc pkt attempted cmdExecSuccess encType stanzaNum res
  let ctx ← need (checkModeCtx attempted res) .keepSearching
  pure (encType, ctx)

/-- process_spa_data for stanza number `stanzaNum`, the stanza in the state. -/
def processSpaData (env : Env σ) (opts : FkoSrvOptions) (clock : Clock) (pkt : SpaPktInfo)
    (stanzaNum : Nat) (rawDigest : Option String) (confPktAge : Int) : Spa σ Verdict := do
  let acc := (← look).acc
  gate (srcDstCheck env acc pkt) .keepSearching
  let r := checkStanzaExpiration acc (clock.expiry stanzaNum)
  change fun w => { w with acc := r.2 }
  gate r.1 .keepSearching
  let (encType, ctx) ← decrypt env acc pkt stanzaNum
  let msgType ← validate env opts clock acc stanzaNum rawDigest confPktAge encType ctx
  dispatch env opts acc stanzaNum msgType

end Fwknopd
