import Fwknopd.Search
import Fwknopd.Reference

/-! SPA over HTTP: the unwrapping of lines 98-136 of incoming_spa.c on the slot the receiver
(udp_server.c, lines 220-244) fills. It computes the documented decoding on every such slot;
the prefix blacklist of lines 91-96 runs on the bytes before it. -/
namespace Fwknopd

variable {σ : Type} {env : Env σ} {opts : FkoSrvOptions}

theorem httpUnwrap_of_not_request {k : Consts} {pkt : SpaPktInfo} {len : Nat}
    (h : isHttpRequest opts pkt.packetData = false) : httpUnwrap k opts pkt len = .ok (pkt, len) := by
  simp [httpUnwrap, h]

/-- Modelled from the spec: "strip the first 5 bytes, URL-decode the payload-specific
substitutions ('-' to '+', '_' to '/'), and truncate at first whitespace". -/
def httpDecode (s : CStr) : CStr := ((s.drop 5).takeWhile fun c => !isSpace c).map httpChar

theorem httpLoop_eq (l : List Char) :
    httpLoop l = (l.takeWhile fun c => !isSpace c).map httpChar := by
  induction l with
  | nil => rfl
  | cons c l ih => cases h : isSpace c <;> simp [httpLoop, List.takeWhile_cons, h, ih]

theorem takeWhile_append_of_stop {p : Char → Bool} {l l' : List Char}
    (h : ∃ c ∈ l, p c = false) : (l ++ l').takeWhile p = l.takeWhile p := by
  induction l with
  | nil => simp at h
  | cons x l ih =>
    cases hx : p x
    · simp [List.takeWhile_cons, hx]
    · obtain ⟨c, hc, hpc⟩ := h
      have hc' : c ∈ l := by
        rcases List.mem_cons.1 hc with rfl | hc
        · simp [hx] at hpc
        · exact hc
      simp [List.takeWhile_cons, hx, ih ⟨c, hc', hpc⟩]

theorem space_mem_drop_of_userAgent {s : CStr} (h : strstr s "User-Agent: Fwknop".data = true) :
    ' ' ∈ s.drop 5 := by
  obtain ⟨a, b, rfl⟩ := of_decide_eq_true h
  have hua : "User-Agent: Fwknop".data = "User-Agent:".data ++ ' ' :: "Fwknop".data := rfl
  have h11 : "User-Agent:".data.length = 11 := rfl
  rw [hua, show a ++ ("User-Agent:".data ++ ' ' :: "Fwknop".data) ++ b =
      (a ++ "User-Agent:".data) ++ ' ' :: ("Fwknop".data ++ b) by simp,
    List.drop_append_of_le_length (by simp only [List.length_append, h11]; omega)]
  exact List.mem_append_right _ (List.mem_cons_self _ _)

/-- On a request no longer than its length the unwrapping is the documented decoding. -/
theorem httpUnwrap_of_request {k : Consts} {pkt : SpaPktInfo} {len : Nat}
    (hreq : isHttpRequest opts pkt.packetData = true) (hlen : pkt.packetData.length ≤ len) :
    httpUnwrap k opts pkt len =
      if (httpDecode pkt.packetData).length < k.minSpaDataSize then
        .error (.badData, { pkt with packetData := httpDecode pkt.packetData })
      else .ok ({ pkt with
        packetData := httpDecode pkt.packetData
        packetDataLen := (httpDecode pkt.packetData).length }, (httpDecode pkt.packetData).length) := by
  have hspace : ' ' ∈ pkt.packetData.drop 5 :=
    space_mem_drop_of_userAgent (by simp only [isHttpRequest, Bool.and_eq_true] at hreq; exact hreq.2)
  have hu : httpLoop (bufBytes (strlcpy (pkt.packetData.drop 5) len) (len - 5)) =
      httpDecode pkt.packetData := by
    rw [strlcpy, List.take_of_length_le (by simp only [List.length_drop]; omega),
      bufBytes_of_ge (by simp only [List.length_drop]; omega), httpLoop_eq,
      takeWhile_append_of_stop ⟨' ', hspace, rfl⟩]
    rfl
  simp only [httpUnwrap, hreq, if_true, hu]

/-- The unwrapping decodes every slot as the receiver leaves it, a refused request leaving its
decoding, and leaves other slots as they were. -/
theorem httpUnwrap_decodes {k : Consts} {pkt : SpaPktInfo} {len : Nat}
    (hlen : pkt.packetData.length ≤ len) :
    httpUnwrap k opts pkt len =
      if isHttpRequest opts pkt.packetData then
        if (httpDecode pkt.packetData).length < k.minSpaDataSize then
          .error (.badData, { pkt with packetData := httpDecode pkt.packetData })
        else .ok ({ pkt with
          packetData := httpDecode pkt.packetData
          packetDataLen := (httpDecode pkt.packetData).length }, (httpDecode pkt.packetData).length)
      else .ok (pkt, len) := by
  cases hreq : isHttpRequest opts pkt.packetData
  · exact httpUnwrap_of_not_request hreq
  · exact httpUnwrap_of_request hreq hlen

def saltedRequest : CStr :=
  "GET /U2FsdGVkX1".data ++ List.replicate 140 'A' ++ " HTTP/1.1\r\nUser-Agent: Fwknop/2.6".data

theorem httpUnwrap_decodes_refSlot :
    (refSlot saltedRequest).packetData.length ≤ (refSlot saltedRequest).packetDataLen ∧
      httpUnwrap fwknopConsts (refOpts "Y" false) (refSlot saltedRequest)
          (refSlot saltedRequest).packetDataLen =
        if isHttpRequest (refOpts "Y" false) (refSlot saltedRequest).packetData then
          if (httpDecode (refSlot saltedRequest).packetData).length < fwknopConsts.minSpaDataSize
          then .error (.badData, { refSlot saltedRequest with
            packetData := httpDecode (refSlot saltedRequest).packetData })
          else .ok ({ refSlot saltedRequest with
            packetData := httpDecode (refSlot saltedRequest).packetData
            packetDataLen := (httpDecode (refSlot saltedRequest).packetData).length },
            (httpDecode (refSlot saltedRequest).packetData).length)
        else .ok (refSlot saltedRequest, (refSlot saltedRequest).packetDataLen) :=
  ⟨le_refl _, httpUnwrap_decodes (le_refl _)⟩

/-- Modelled from the spec: the client writes '+' as '-' and '/' as '_'. -/
def httpEncodeChar (c : Char) : Char := if c == '+' then '-' else if c == '/' then '_' else c

/-- Modelled from the spec: "GET /", the encoded payload, a space and the rest. -/
def httpRequest (p rest : CStr) : CStr := "GET /".data ++ p.map httpEncodeChar ++ ' ' :: rest

def isB64Char (c : Char) : Bool := c.isAlphanum || c == '+' || c == '/' || c == '='

theorem isB64Char_not_special {c : Char} (h : isB64Char c = true) :
    c ≠ '-' ∧ c ≠ '_' ∧ isSpace c = false := by
  refine ⟨?_, ?_, ?_⟩
  · rintro rfl
    exact absurd h (by decide)
  · rintro rfl
    exact absurd h (by decide)
  · by_contra hs
    have hn : c.toNat = 32 ∨ c.toNat = 9 ∨ c.toNat = 10 ∨ c.toNat = 13 ∨ c.toNat = 11 ∨
        c.toNat = 12 := by
      simp only [isSpace, Bool.or_eq_true, beq_iff_eq, Bool.not_eq_false] at hs
      rcases hs with ((((rfl | rfl) | rfl) | rfl) | h) | h <;> first | decide | simp [h]
    rw [← Char.ofNat_toNat c] at h
    rcases hn with hn | hn | hn | hn | hn | hn <;> rw [hn] at h <;> exact absurd h (by decide)

theorem httpChar_httpEncodeChar {c : Char} (h : isB64Char c = true) :
    (!isSpace (httpEncodeChar c)) = true ∧ httpChar (httpEncodeChar c) = c := by
  by_cases hp : c = '+'
  · subst hp
    decide
  by_cases hs : c = '/'
  · subst hs
    decide
  obtain ⟨hm, hu, hsp⟩ := isB64Char_not_special h
  have he : httpEncodeChar c = c := by simp [httpEncodeChar, hp, hs]
  simp [he, hsp, httpChar, hm, hu]

theorem httpDecode_httpRequest {p rest : CStr} (hp : ∀ c ∈ p, isB64Char c = true) :
    httpDecode (httpRequest p rest) = p := by
  have h5 : "GET /".data.length = 5 := rfl
  unfold httpDecode httpRequest
  rw [List.append_assoc, List.drop_left' h5, List.takeWhile_append_of_pos, List.map_append,
    List.map_map]
  · have hid : ∀ c ∈ p, (httpChar ∘ httpEncodeChar) c = c :=
      fun c hc => (httpChar_httpEncodeChar (hp c hc)).2
    simp [List.map_congr_left hid, show (!isSpace ' ') = false from rfl]
  · intro c hc
    obtain ⟨c', hc', rfl⟩ := List.mem_map.1 hc
    exact (httpChar_httpEncodeChar (hp c' hc')).1

theorem receive_of_nul_free {k : Consts} {slot : SpaPktInfo} {d : Datagram}
    (h0 : 0 < (d.msg.take k.maxSpaPacketLen).length) (hnul : nul ∉ d.msg.take k.maxSpaPacketLen) :
    receive k slot d = some { slot with
      packetData := d.msg.take k.maxSpaPacketLen
      packetDataLen := (d.msg.take k.maxSpaPacketLen).length
      packetSrcIp := d.srcIp
      packetDstIp := 0
      sdpId := 0 } := by
  unfold receive
  rw [if_pos ⟨h0, List.length_take_le _ _⟩,
    List.takeWhile_eq_self_iff.2 fun c hc => by simpa using ne_of_mem_of_not_mem hc hnul]

theorem receive_of_fit {k : Consts} {slot : SpaPktInfo} {d : Datagram} (h0 : 0 < d.msg.length)
    (hfit : d.msg.length ≤ k.maxSpaPacketLen) (hnul : nul ∉ d.msg) :
    receive k slot d = some { slot with
      packetData := d.msg
      packetDataLen := d.msg.length
      packetSrcIp := d.srcIp
      packetDstIp := 0
      sdpId := 0 } := by
  have htake := List.take_of_length_le hfit
  rw [receive_of_nul_free (by rwa [htake]) (by rwa [htake]), htake]

theorem nul_not_mem_httpRequest {p rest : CStr} (hp : ∀ c ∈ p, isB64Char c = true)
    (hnul : nul ∉ rest) : nul ∉ httpRequest p rest := by
  have hpn : ∀ c ∈ p, httpEncodeChar c ≠ nul := fun c hc h => by
    have hc' : c = nul := by rw [← (httpChar_httpEncodeChar (hp c hc)).2, h]; rfl
    exact absurd (hc' ▸ hp c hc) (by decide)
  intro h
  simp only [httpRequest, List.mem_append, List.mem_cons, List.mem_map] at h
  rcases h with (h | ⟨c, hc, h⟩) | h | h
  · exact absurd h (by decide)
  · exact hpn c hc h
  · exact absurd h (by decide)
  · exact hnul h

theorem isHttpRequest_httpRequest {p rest : CStr} (hon : opts.is .enableSpaOverHttp 'Y' = true)
    (hua : strstr rest "User-Agent: Fwknop".data = true) :
    isHttpRequest opts (httpRequest p rest) = true := by
  have hget : strncasecmpEq (httpRequest p rest) "GET /".data = true := by
    rw [strncasecmpEq, bufBytes_of_le (by simp [httpRequest]), httpRequest, List.append_assoc,
      List.take_left' rfl]
    rfl
  have hinf : "User-Agent: Fwknop".data <:+: httpRequest p rest :=
    (of_decide_eq_true hua).trans (List.suffix_cons _ _ |>.trans (List.suffix_append _ _)).isInfix
  simp [isHttpRequest, hon, hget, strstr, hinf]

theorem httpRequest_received_unwrapped {k : Consts} {p rest : CStr} {slot : SpaPktInfo} {src : Nat}
    (hp : ∀ c ∈ p, isB64Char c = true) (hmin : k.minSpaDataSize ≤ p.length)
    (hua : strstr rest "User-Agent: Fwknop".data = true) (hnul : nul ∉ rest)
    (hfit : (httpRequest p rest).length ≤ k.maxSpaPacketLen)
    (hon : opts.is .enableSpaOverHttp 'Y' = true) :
    ∃ slot', receive k slot ⟨httpRequest p rest, src⟩ = some slot' ∧
      httpUnwrap k opts { slot' with packetDataLen := 0 } slot'.packetDataLen =
        .ok ({ slot' with packetData := p, packetDataLen := p.length }, p.length) := by
  refine ⟨_, receive_of_fit (by simp [httpRequest]) hfit (nul_not_mem_httpRequest hp hnul), ?_⟩
  rw [httpUnwrap_of_request (by exact isHttpRequest_httpRequest hon hua) (by exact le_rfl)]
  simp only [httpDecode_httpRequest hp, Nat.not_lt.2 hmin, if_false]

/-- A fitting request for a base64 payload of admissible length unwraps to the payload. -/
theorem http_request_round_trip {k : Consts} {p rest : CStr} {slot : SpaPktInfo} {src : Nat}
    (hp : ∀ c ∈ p, isB64Char c = true) (hmin : k.minSpaDataSize ≤ p.length)
    (hua : strstr rest "User-Agent: Fwknop".data = true) (hnul : nul ∉ rest)
    (hfit : (httpRequest p rest).length ≤ k.maxSpaPacketLen)
    (hon : opts.is .enableSpaOverHttp 'Y' = true) :
    ∃ slot', receive k slot ⟨httpRequest p rest, src⟩ = some slot' ∧
      httpUnwrap k opts { slot' with packetDataLen := 0 } slot'.packetDataLen =
        .ok ({ slot' with packetData := p, packetDataLen := p.length }, p.length) :=
  httpRequest_received_unwrapped hp hmin hua hnul hfit hon

def httpRest : CStr := "HTTP/1.1\r\nUser-Agent: Fwknop/2.6.10\r\n\r\n".data

theorem http_request_round_trip_refPayload :
    (∀ c ∈ refPayload, isB64Char c = true) ∧ fwknopConsts.minSpaDataSize ≤ refPayload.length ∧
      strstr httpRest "User-Agent: Fwknop".data = true ∧ nul ∉ httpRest ∧
      (httpRequest refPayload httpRest).length ≤ fwknopConsts.maxSpaPacketLen ∧
      (refOpts "Y" false).is .enableSpaOverHttp 'Y' = true ∧
      ∃ slot', receive fwknopConsts (refSlot []) ⟨httpRequest refPayload httpRest, 1⟩ =
          some slot' ∧
        httpUnwrap fwknopConsts (refOpts "Y" false) { slot' with packetDataLen := 0 }
            slot'.packetDataLen =
          .ok ({ slot' with packetData := refPayload, packetDataLen := refPayload.length },
            refPayload.length) := by
  have hp : ∀ c ∈ refPayload, isB64Char c = true := fun c hc => by
    rw [List.eq_of_mem_replicate hc]
    rfl
  have hmin : fwknopConsts.minSpaDataSize ≤ refPayload.length := by
    simp only [refPayload, List.length_replicate]
    decide
  have hua : strstr httpRest "User-Agent: Fwknop".data = true := by decide
  have hnul : nul ∉ httpRest := by decide
  have hfit : (httpRequest refPayload httpRest).length ≤ fwknopConsts.maxSpaPacketLen := by
    simp only [httpRequest, refPayload, List.length_append, List.length_map,
      List.length_replicate, List.length_cons]
    decide
  have hon : (refOpts "Y" false).is .enableSpaOverHttp 'Y' = true := by decide
  exact ⟨hp, hmin, hua, hnul, hfit, hon,
    http_request_round_trip hp hmin hua hnul hfit hon⟩

/-- A request for "/U2FsdGVkX1..." passes with a payload that starts with B64_RIJNDAEL_SALT. -/
theorem http_salted_payload_passes :
    ((preprocessSpaData (refEnv "k" (refCtx .access "" 0)) (refOpts "Y" false)
      (refSlot saltedRequest)).toOption.map
        fun p => fwknopConsts.b64RijndaelSalt.isPrefixOf p.packetData) = some true := by
  set_option maxRecDepth 4000 in decide

end Fwknopd
