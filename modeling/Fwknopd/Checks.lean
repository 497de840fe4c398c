import Fwknopd.Preprocess
import Mathlib.Algebra.Group.Int

/-! The single-purpose checks of incoming_spa.c: replay, stanza lookup in both modes,
addresses, expiry, packet age, the embedded source, the username, NAT and the timeout. -/
namespace Fwknopd

variable {σ : Type}

/-- replay_check: under digest persistence the fresh digest; `some none` when it is off. -/
def replayCheck (env : Env σ) (opts : FkoSrvOptions) (store : σ) (pkt : SpaPktInfo) :
    Option (Option String) :=
  if opts.is .enableDigestPersistence 'Y' then
    match env.getRawDigest pkt.packetData with
    | none => none
    | some d => if env.isReplay store d then none else some (some d)
  else some none

/-- src_check: some stanza's SOURCE list holds the packet's source address. -/
def srcCheck (env : Env σ) (accs : List AccStanza) (pkt : SpaPktInfo) : Bool :=
  accs.any fun acc => env.compareAddrList acc.sourceList pkt.packetSrcIp

/-- sdp_id_check: the stanza the hash table maps the client ID's decimal string to. -/
def sdpIdCheck (tbl : AList (fun _ : CStr => AccStanza)) (pkt : SpaPktInfo) : Option AccStanza :=
  if pkt.sdpId = 0 then none else tbl.lookup pkt.sdpIdStr

/-- src_dst_check: the SOURCE list holds the source, a DESTINATION list the destination. -/
def srcDstCheck (env : Env σ) (acc : AccStanza) (pkt : SpaPktInfo) : Bool :=
  env.compareAddrList acc.sourceList pkt.packetSrcIp &&
    match acc.destinationList with
    | none => true
    | some l => env.compareAddrList l pkt.packetDstIp

theorem srcDstCheck_eq_true {env : Env σ} {acc : AccStanza} {pkt : SpaPktInfo} :
    srcDstCheck env acc pkt = true ↔ env.compareAddrList acc.sourceList pkt.packetSrcIp = true ∧
      ∀ l, acc.destinationList = some l → env.compareAddrList l pkt.packetDstIp = true := by
  unfold srcDstCheck
  cases acc.destinationList <;> simp

/-- check_stanza_expiration at reading `now`: the verdict and the stanza, flagged when this
reading finds it past its time. -/
def checkStanzaExpiration (acc : AccStanza) (now : Int) : Bool × AccStanza :=
  if acc.accessExpireTime > 0 then
    if acc.expired then (false, acc)
    else if now > acc.accessExpireTime then (false, { acc with expired := true })
    else (true, acc)
  else (true, acc)

theorem checkStanzaExpiration_fst {acc : AccStanza} {now : Int} :
    (checkStanzaExpiration acc now).1 = true ↔
      (0 < acc.accessExpireTime → acc.expired = false ∧ now ≤ acc.accessExpireTime) := by
  unfold checkStanzaExpiration
  split_ifs <;> simp_all

theorem checkStanzaExpiration_snd {acc : AccStanza} {now : Int} :
    (checkStanzaExpiration acc now).2 = acc ∨
      ((checkStanzaExpiration acc now).2 = { acc with expired := true } ∧
        0 < acc.accessExpireTime ∧ acc.expired = false ∧ acc.accessExpireTime < now) := by
  unfold checkStanzaExpiration
  split_ifs <;> simp_all

theorem checkStanzaExpiration_snd_of_late {acc : AccStanza} {now : Int}
    (hpos : 0 < acc.accessExpireTime) (hlate : acc.accessExpireTime < now) :
    (checkStanzaExpiration acc now).2 = { acc with expired := true } := by
  unfold checkStanzaExpiration
  rw [if_pos hpos]
  by_cases hx : acc.expired = true
  · rw [if_pos hx]
    cases acc
    simp_all
  · simp [hx, hlate]

/-- A long, or a time_t: the integer wrapped to 64-bit two's complement. -/
def wrap64 (x : Int) : Int := x.bmod (2 ^ 64)

/-- The conversion of a long to int: wrapped to 32-bit two's complement. -/
def wrap32 (x : Int) : Int := x.bmod (2 ^ 32)

/-- labs, whose result for LONG_MIN is LONG_MIN again. -/
def labs (x : Int) : Int := wrap64 x.natAbs

/-- check_pkt_age: `int ts_diff = labs(now_ts - timestamp)` within the configured age. -/
def checkPktAge (opts : FkoSrvOptions) (spadat : SpaData) (now confPktAge : Int) : Bool :=
  if opts.is .enableSpaPacketAging 'Y' then
    let tsDiff := wrap32 (labs (wrap64 (now - spadat.timestamp)))
    !(tsDiff > confPktAge)
  else true

def digitsValue (s : CStr) : Nat := s.foldl (fun n c => 10 * n + (c.toNat - '0'.toNat)) 0

/-- The four numbers of a dotted quad, when the string is one. -/
def ipv4Octets (s : CStr) : Option (List Nat) :=
  let parts := s.splitOn '.'
  if parts.length = 4 ∧ parts.all (fun p => !p.isEmpty && p.all Char.isDigit && digitsValue p ≤ 255)
  then some (parts.map digitsValue) else none

/-- Modelled from the spec: is_valid_ipv4_addr (not under src/), four decimal numbers ≤ 255. -/
def isValidIpv4Addr (s : CStr) : Bool := (ipv4Octets s).isSome

def ipv4Value (s : CStr) : Option Nat :=
  (ipv4Octets s).map fun o => o.foldl (fun a b => 256 * a + b) 0

/-- inet_ntop of a host-order IPv4 address. -/
def ipv4Str (a : Nat) : CStr :=
  (toString (a / 16777216 % 256) ++ "." ++ toString (a / 65536 % 256) ++ "." ++
    toString (a / 256 % 256) ++ "." ++ toString (a % 256)).data

/-- check_src_access: "0.0.0.0" asks for the packet's source, refused under
REQUIRE_SOURCE_ADDRESS; it sets use_src_ip. -/
def checkSrcAccess (acc : AccStanza) (spadat : SpaData) : Bool × SpaData :=
  if strcmpEq spadat.spaMessageSrcIp "0.0.0.0".data then
    if acc.requireSourceAddress then (false, spadat)
    else (true, { spadat with useSrcIp := spadat.pktSourceIp })
  else (true, { spadat with useSrcIp := spadat.spaMessageSrcIp })

/-- check_username: the username in the message is the stanza's REQUIRE_USERNAME, if set. -/
def checkUsername (acc : AccStanza) (spadat : SpaData) : Bool :=
  match acc.requireUsername with
  | none => true
  | some u => spadat.username == u

/-- check_nat_access_types: NAT needs firewall support and the matching NAT option. -/
def checkNatAccessTypes (fw : Firewall) (opts : FkoSrvOptions) (t : MsgType) : Bool :=
  let flag (firewd ipt : ConfKey) : Bool :=
    match fw with
    | .firewalld => opts.is firewd 'Y'
    | .iptables => opts.is ipt 'Y'
    | .other => false
  if t = .natAccess ∨ t = .clientTimeoutNatAccess then
    flag .enableFirewdForwarding .enableIptForwarding
  else if t = .localNatAccess ∨ t = .clientTimeoutLocalNatAccess then
    flag .enableFirewdLocalNat .enableIptLocalNat
  else true

/-- set_timeout, whose first test is on spa_data_t's unsigned client_timeout. -/
def setTimeout (k : Consts) (acc : AccStanza) (spadat : SpaData) : SpaData :=
  { spadat with fwAccessTimeout :=
      if spadat.clientTimeout > 0 then (spadat.clientTimeout : Int)
      else if acc.fwAccessTimeout > 0 then acc.fwAccessTimeout
      else k.defFwAccessTimeout }

def parseDecimal : CStr → Option Int
  | '-' :: ds => if !ds.isEmpty && ds.all Char.isDigit then some (-(digitsValue ds : Int)) else none
  | ds => if !ds.isEmpty && ds.all Char.isDigit then some (digitsValue ds) else none

/-- Modelled from the spec: strtol_wrapper (not under src/), a decimal parse in a range. -/
def strtolWrapper (s : String) (lo hi : Int) : Option Int :=
  match parseDecimal s.data with
  | some v => if lo ≤ v ∧ v ≤ hi then some v else none
  | none => none

end Fwknopd
