import Fwknopd.CString
import Mathlib.Data.List.AList

/-! The records incoming_spa.c works on, and the parts of fwknopd outside it that it calls:
header macros, libfko, the replay cache, access.c and the firewall and command layers. -/
namespace Fwknopd

/-- KEEP_SEARCHING and STOP_SEARCHING, what process_spa_data tells the stanza loop. -/
inductive Verdict
  | keepSearching
  | stopSearching
  deriving DecidableEq, Repr

/-- The values fko_encryption_type returns. -/
inductive EncType
  | invalidData
  | unknown
  | rijndael
  | gpg
  deriving DecidableEq, Repr

/-- The SPA message types of libfko. -/
inductive MsgType
  | command
  | access
  | natAccess
  | clientTimeoutAccess
  | clientTimeoutNatAccess
  | localNatAccess
  | clientTimeoutLocalNatAccess
  | serviceAccess
  | clientTimeoutServiceAccess
  deriving DecidableEq, Repr

/-- The firewall fwknopd was built for (FIREWALL_FIREWALLD, FIREWALL_IPTABLES or neither). -/
inductive Firewall
  | firewalld
  | iptables
  | other
  deriving DecidableEq, Repr

/-- The header macros the core reads (fko.h, fko_limits.h, fwknopd_common.h, not under src/). -/
structure Consts where
  minSpaDataSize : Nat
  maxSpaPacketLen : Nat
  minGnupgMsgSize : Nat
  b64RijndaelSalt : CStr
  b64GpgPrefix : CStr
  b64SdpIdStrLen : Nat
  minIpv4StrLen : Nat
  maxIpv4StrLen : Nat
  maxDecryptedSpaLen : Nat
  maxSpaCmdLen : Nat
  defFwAccessTimeout : Int
  rchkMaxSpaPacketAge : Int
  fkoEncModeAsymmetric : Int
  firewall : Firewall

abbrev AccInt := Nat × Nat

/-- The fields of acc_stanza_t the core reads; only `expired` is written. Defaults are the
zeroes of the loader's calloc. -/
structure AccStanza where
  sourceList : List AccInt := []
  destinationList : Option (List AccInt) := none
  openPorts : List String := []
  restrictPorts : List String := []
  accessExpireTime : Int := 0
  expired : Bool := false
  useRijndael : Bool := false
  key : Option String := none
  keyLen : Nat := 0
  encryptionMode : Int := 0
  hmacKey : Option String := none
  hmacKeyLen : Nat := 0
  hmacType : Int := 0
  useGpg : Bool := false
  gpgExe : Option String := none
  gpgHomeDir : Option String := none
  gpgDecryptId : Option String := none
  gpgDecryptPw : Option String := none
  gpgAllowNoPw : Bool := false
  gpgRequireSig : Bool := false
  gpgIgnoreSigError : Bool := false
  gpgRemoteId : Option String := none
  gpgRemoteIdList : List String := []
  gpgRemoteFpr : Option String := none
  gpgRemoteFprList : List String := []
  requireSourceAddress : Bool := false
  requireUsername : Option String := none
  enableCmdExec : Bool := false
  enableCmdSudoExec : Bool := false
  cmdSudoExecUser : Option String := none
  cmdSudoExecGroup : Option String := none
  cmdExecUser : Option String := none
  cmdExecGroup : Option String := none
  cmdExecUid : Nat := 0
  cmdExecGid : Nat := 0
  cmdCycleOpen : Option String := none
  fwAccessTimeout : Int := 0
  deriving DecidableEq, Repr

structure KeyMaterial where
  key : Option String
  keyLen : Nat
  encryptionMode : Int
  hmacKey : Option String
  hmacKeyLen : Nat
  hmacType : Int
  deriving DecidableEq, Repr

def AccStanza.keyMaterial (acc : AccStanza) : KeyMaterial :=
  ⟨acc.key, acc.keyLen, acc.encryptionMode, acc.hmacKey, acc.hmacKeyLen, acc.hmacType⟩

structure GpgParams where
  gpgExe : Option String
  gpgHomeDir : Option String
  gpgDecryptId : Option String
  signatureVerify : Bool
  ignoreVerifyError : Bool
  deriving DecidableEq, Repr

/-- spa_pkt_info_t: the packet slot the receiver fills and incoming_spa reads. -/
structure SpaPktInfo where
  packetData : CStr
  packetDataLen : Nat
  packetSrcIp : Nat
  packetDstIp : Nat
  sdpId : Nat
  sdpIdStr : CStr
  deriving DecidableEq, Repr

/-- spa_data_t: incoming_spa sets the two addresses and a null service list, process_spa_data
writes the rest before reading it. client_timeout is an unsigned int. -/
structure SpaData where
  pktSourceIp : CStr
  pktDestinationIp : CStr
  sdpId : Nat := 0
  username : String := ""
  version : String := ""
  timestamp : Int := 0
  messageType : MsgType := .command
  spaMessage : CStr := []
  natAccess : String := ""
  serverAuth : String := ""
  clientTimeout : Nat := 0
  spaMessageSrcIp : CStr := []
  spaMessageRemain : CStr := []
  useSrcIp : CStr := []
  fwAccessTimeout : Int := 0
  serviceDataList : Option (List Nat) := none
  deriving DecidableEq, Repr

/-- What the fko_get_* calls read back from a context; `none` is a failed call. -/
structure FkoCtx where
  disableSdpMode : Option Bool
  sdpId : Option Nat
  username : Option String
  version : Option String
  timestamp : Option Int
  messageType : Option MsgType
  spaMessage : Option CStr
  natAccess : Option String
  serverAuth : Option String
  clientTimeout : Option Int
  gpgSignatureId : Option String
  gpgSignatureFpr : Option String
  deriving DecidableEq, Repr

/-- A call on a collaborator that leaves a trace outside the process, and `fault`, a read
through a null pointer. -/
inductive Call
  | fkoNewWithData (data : CStr) (km : KeyMaterial) (sdpId : Nat) (ok : Bool)
  | fkoDecryptSpaData (gpg : GpgParams) (pw : Option String) (ok : Bool)
  | addReplay (digest : String) (ok : Bool)
  | cmdCycleOpen (spadat : SpaData) (stanzaNum : Nat) (ok : Bool)
  | runExtcmd (cmd : CStr)
  | runExtcmdAs (uid gid : Nat) (cmd : CStr)
  | processSpaRequest (spadat : SpaData)
  | fault
  deriving DecidableEq, Repr

/-- A call with the stanza number the source passes along (0 in SDP mode), that stanza and
the spa_data_t as they stood then. -/
structure Event where
  stanzaNum : Nat
  acc : AccStanza
  spadat : SpaData
  call : Call
  deriving DecidableEq, Repr

/-- The calls that act for a stanza: a firewall request, a command-cycle open, a command. -/
def Call.IsAction : Call → Prop
  | .cmdCycleOpen .. | .runExtcmd _ | .runExtcmdAs .. | .processSpaRequest _ => True
  | _ => False

instance : DecidablePred Call.IsAction
  | .cmdCycleOpen .. | .runExtcmd _ | .runExtcmdAs .. | .processSpaRequest _ => isTrue trivial
  | .fkoNewWithData .. | .fkoDecryptSpaData .. | .addReplay .. | .fault => isFalse id

/-- The opts->config keys the core reads. -/
inductive ConfKey
  | enableSpaOverHttp
  | disableSdpMode
  | enableDigestPersistence
  | enableSpaPacketAging
  | maxSpaPacketAge
  | allowLegacyAccessRequests
  | enableFirewdForwarding
  | enableFirewdLocalNat
  | enableIptForwarding
  | enableIptLocalNat
  | sudoExe
  deriving DecidableEq, Repr

/-- The parts of fko_srv_options_t the core reads. -/
structure FkoSrvOptions where
  config : ConfKey → String
  test : Bool

def FkoSrvOptions.is (opts : FkoSrvOptions) (key : ConfKey) (v : Char) : Bool :=
  strncasecmpEq (opts.config key).data [v]

/-- The clock readings of one incoming_spa call, by stanza number: check_stanza_expiration's
and check_pkt_age's. -/
structure Clock where
  expiry : Nat → Int
  age : Nat → Int

/-- Everything outside incoming_spa.c it uses (header macros, libfko, the replay cache over a
store `σ`, access.c, service.c, cmd_cycle.c), each as a function of its arguments. -/
structure Env (σ : Type) extends Consts where
  fkoBase64Decode : CStr → List UInt8
  getRawDigest : CStr → Option String
  isReplay : σ → String → Bool
  addReplay : σ → String → Bool × σ
  compareAddrList : List AccInt → Nat → Bool
  fkoEncryptionType : CStr → EncType
  fkoNewWithData : CStr → KeyMaterial → Nat → Option FkoCtx
  fkoSetGpgExe : FkoCtx → String → Option FkoCtx
  fkoSetGpgHomeDir : FkoCtx → String → Option FkoCtx
  fkoSetGpgRecipient : FkoCtx → String → FkoCtx
  fkoSetGpgSignatureVerify : FkoCtx → Bool → FkoCtx
  fkoSetGpgIgnoreVerifyError : FkoCtx → Bool → FkoCtx
  fkoDecryptSpaData : FkoCtx → Option String → Option FkoCtx
  fkoGpgSignatureFprMatch : FkoCtx → String → Option Bool
  fkoGpgSignatureIdMatch : FkoCtx → String → Option Bool
  accCheckServiceAccess : AccStanza → CStr → Bool
  getServiceDataList : CStr → Option (List Nat)
  accCheckPortAccess : AccStanza → CStr → Bool
  cmdCycleOpen : AccStanza → SpaData → Nat → Bool

/-- The access stanzas: the classic list, and the SDP hash table keyed by the client ID. -/
structure Policy where
  accStanzas : List AccStanza
  accStanzaHashTbl : AList (fun _ : CStr => AccStanza)

end Fwknopd
