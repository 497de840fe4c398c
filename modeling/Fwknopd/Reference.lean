import Fwknopd.IncomingSpa

/-! A concrete instance of what lies outside the core, to run the model on: fwknop's header
values, a replay cache that refuses a digest it holds, and a one-key libfko. -/
namespace Fwknopd

/-- The values fwknop's headers give the macros. -/
def fwknopConsts : Consts where
  minSpaDataSize := 140
  maxSpaPacketLen := 1500
  minGnupgMsgSize := 400
  b64RijndaelSalt := "U2FsdGVkX1".data
  b64GpgPrefix := "hQ".data
  b64SdpIdStrLen := 6
  minIpv4StrLen := 7
  maxIpv4StrLen := 16
  maxDecryptedSpaLen := 1024
  maxSpaCmdLen := 1400
  defFwAccessTimeout := 30
  rchkMaxSpaPacketAge := 100000
  fkoEncModeAsymmetric := 7
  firewall := .iptables

/-- A replay cache as a list of digests; inserting a digest it holds fails. -/
def refAddReplay (s : List String) (d : String) : Bool × List String :=
  if d ∈ s then (false, s) else (true, d :: s)

/-- Every packet decrypts under the Rijndael key `key` only, to `msg` with its client ID; a
request is allowed when the stanza lists it in OPEN_PORTS. -/
def refEnv (key : String) (msg : FkoCtx) : Env (List String) where
  toConsts := fwknopConsts
  fkoBase64Decode s := s.map fun c => c.toNat.toUInt8
  getRawDigest s := some (String.mk s)
  isReplay s d := d ∈ s
  addReplay := refAddReplay
  compareAddrList l ip := l.any fun e => ip &&& e.2 == e.1
  fkoEncryptionType _ := .rijndael
  fkoNewWithData _ km sdpId := if km.key = some key then some { msg with sdpId := some sdpId } else none
  fkoSetGpgExe c _ := some c
  fkoSetGpgHomeDir c _ := some c
  fkoSetGpgRecipient c _ := c
  fkoSetGpgSignatureVerify c _ := c
  fkoSetGpgIgnoreVerifyError c _ := c
  fkoDecryptSpaData _ _ := none
  fkoGpgSignatureFprMatch _ _ := none
  fkoGpgSignatureIdMatch _ _ := none
  accCheckServiceAccess acc r := acc.openPorts.contains (String.mk r)
  getServiceDataList _ := some []
  accCheckPortAccess acc r := acc.openPorts.contains (String.mk r)
  cmdCycleOpen _ _ _ := true

/-- A message of type `t`, body `body`, timestamp `ts` and a 30 s client timeout. -/
def refCtx (t : MsgType) (body : String) (ts : Int) : FkoCtx where
  disableSdpMode := some true
  sdpId := some 0
  username := some "user"
  version := some "3.0.0"
  timestamp := some ts
  messageType := some t
  spaMessage := some body.data
  natAccess := some ""
  serverAuth := some ""
  clientTimeout := some 30
  gpgSignatureId := none
  gpgSignatureFpr := none

/-- SPA over HTTP, persistence and packet aging (120 s) on; DISABLE_SDP_MODE and test given. -/
def refOpts (sdp : String) (test : Bool) : FkoSrvOptions where
  config k := match k with
    | .enableSpaOverHttp => "Y"
    | .disableSdpMode => sdp
    | .enableDigestPersistence => "Y"
    | .enableSpaPacketAging => "Y"
    | .maxSpaPacketAge => "120"
    | .allowLegacyAccessRequests => "Y"
    | .sudoExe => "/usr/bin/sudo"
    | _ => "N"
  test := test

/-- A packet slot holding `data` from 1.2.3.4, as the receiver fills it. -/
def refSlot (data : CStr) : SpaPktInfo :=
  ⟨data, data.length, 16909060, 0, 0, []⟩

/-- A stanza for 1.2.0.0/16 with Rijndael key `key` that opens the ports it lists. -/
def refStanza (key : String) (ports : List String) : AccStanza :=
  { sourceList := [(16908288, 4294901760)], useRijndael := true, key := some key, openPorts := ports }

def refClock (t : Int) : Clock := ⟨fun _ => t, fun _ => t⟩

def refPayload : CStr := List.replicate 140 'A'

/-- Classic stanzas `accs`, an empty replay store and the payload in the slot. -/
def refServer (accs : List AccStanza) : Server (List String) :=
  ⟨⟨accs, ∅⟩, [], refSlot refPayload⟩

/-- An access request for tcp/22, stamped with the clock reading 1762560000. -/
def refRequest : FkoCtx := refCtx .access "1.2.3.4,tcp/22" 1762560000

theorem refServer_acts :
    ∃ e ∈ (incomingSpa (refEnv "k" refRequest) (refOpts "Y" false) (refClock 1762560000)
      (refServer [refStanza "k" ["tcp/22"]])).2,
      e.call.IsAction ∧ e.spadat.timestamp = 1762560000 := by
  set_option maxRecDepth 8000 in decide

end Fwknopd
