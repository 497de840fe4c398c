import Fwknopd.Types

/-! preprocess_spa_data and precheck_pkt: the cheap checks, the HTTP unwrapping and the
extraction of the SDP client ID, lines 54-187 and 460-483 of incoming_spa.c. -/
namespace Fwknopd

/-- The error codes preprocess_spa_data returns. -/
inductive SpaMsg
  | badData
  | notSpaData
  deriving DecidableEq, Repr

/-- Modelled from the spec: is_base64 (not under src/), the first `len` bytes in the base64
alphabet with '-' and '_'. -/
def isBase64 (buf : CStr) (len : Nat) : Bool :=
  (bufBytes buf len).all fun c =>
    c.isAlphanum || c == '+' || c == '/' || c == '=' || c == '-' || c == '_'

/-- The byte the HTTP loop stores for `c`: '-' becomes '+' and '_' becomes '/'. -/
def httpChar (c : Char) : Char := if c == '-' then '+' else if c == '_' then '/' else c

/-- The loop of lines 117-130: rewrite each byte until the first space, where it writes the
terminator. -/
def httpLoop : List Char → CStr
  | [] => []
  | c :: cs => if isSpace c then [] else httpChar c :: httpLoop cs

/-- The request test of lines 102-104. -/
def isHttpRequest (opts : FkoSrvOptions) (data : CStr) : Bool :=
  opts.is .enableSpaOverHttp 'Y' && strncasecmpEq data "GET /".data &&
    strstr data "User-Agent: Fwknop".data

/-- Lines 102-136, in place: a request the length test refuses leaves its rewritten bytes. -/
def httpUnwrap (k : Consts) (opts : FkoSrvOptions) (pkt : SpaPktInfo) (len : Nat) :
    Except (SpaMsg × SpaPktInfo) (SpaPktInfo × Nat) :=
  if isHttpRequest opts pkt.packetData then
    let u := httpLoop (bufBytes (strlcpy (pkt.packetData.drop 5) len) (len - 5))
    if u.length < k.minSpaDataSize then .error (.badData, { pkt with packetData := u })
    else .ok ({ pkt with packetData := u, packetDataLen := u.length }, u.length)
  else .ok (pkt, len)

/-- memcpy of FKO_SDP_ID_SIZE decoded bytes into a little-endian uint32_t. -/
def memcpyUint32 (b : List UInt8) : Nat :=
  (b.getD 0 0).toNat + 256 * (b.getD 1 0).toNat + 65536 * (b.getD 2 0).toNat +
    16777216 * (b.getD 3 0).toNat

/-- Lines 151-184: the SDP client ID from the first B64_SDP_ID_STR_LEN characters. -/
def extractSdpId (env : Env σ) (opts : FkoSrvOptions) (pkt : SpaPktInfo) :
    Except (SpaMsg × SpaPktInfo) SpaPktInfo :=
  if opts.is .disableSdpMode 'N' then
    let decoded := env.fkoBase64Decode (pkt.packetData.take env.b64SdpIdStrLen)
    if decoded.length < 1 then .error (.notSpaData, pkt)
    else
      let sdpId := memcpyUint32 decoded
      if sdpId = 0 then .error (.notSpaData, pkt)
      else .ok { pkt with sdpId := sdpId, sdpIdStr := (toString sdpId).data }
  else .ok pkt

/-- preprocess_spa_data: on success the slot with the normalised payload; an error comes with
the slot as the function left it. -/
def preprocessSpaData (env : Env σ) (opts : FkoSrvOptions) (pkt : SpaPktInfo) :
    Except (SpaMsg × SpaPktInfo) SpaPktInfo :=
  let len := pkt.packetDataLen
  let pkt := { pkt with packetDataLen := 0 }
  if len < env.minSpaDataSize then .error (.badData, pkt)
  else if len > env.maxSpaPacketLen then .error (.badData, pkt)
  else if constantRuntimeCmpEq pkt.packetData env.b64RijndaelSalt env.b64RijndaelSalt.length then
    .error (.badData, pkt)
  else if len > env.minGnupgMsgSize &&
      constantRuntimeCmpEq pkt.packetData env.b64GpgPrefix env.b64GpgPrefix.length then
    .error (.badData, pkt)
  else match httpUnwrap env.toConsts opts pkt len with
    | .error e => .error e
    | .ok (pkt, len) =>
      if !isBase64 pkt.packetData len then .error (.notSpaData, pkt)
      else extractSdpId env opts pkt

/-- precheck_pkt: preprocess_spa_data, its error a drop, the slot as it was left either way. -/
def precheckPkt (env : Env σ) (opts : FkoSrvOptions) (pkt : SpaPktInfo) :
    Except SpaPktInfo SpaPktInfo :=
  match preprocessSpaData env opts pkt with
  | .ok pkt => .ok pkt
  | .error (_, pkt) => .error pkt

end Fwknopd
