import SprinklersAlarmClock.Firmware.Board

/-!
# `HTTPClientESP32Ex` and `LineNotifyESP32`

The path of `sendLineMessage`: the request header, the payload, and the wait
for the reply.  The TLS socket itself is part of the surroundings: each call on
`_tcp` is one operation whose answer is free.  A call through a null pointer is
a processor fault, after which nothing runs.
-/

namespace SprinklersAlarmClock

open Logic

/-- One call of the network libraries, its answer in the event. -/
def net (e : NetEvent) : Sketch Unit := act (.net e)

/-- A null pointer is dereferenced. -/
def fault {α : Type} : Sketch α := do
  mark .nullDeref
  Prog.halt

/-! ## The socket -/

namespace Tcp

/-- `_tcp->available()`. -/
def available : Sketch Int :=
  ask (fun env i _ => env.tcpAvailable i) fun n => .net (.available n)

/-- `_tcp->connected()`. -/
def connected : Sketch Bool :=
  ask (fun env i _ => env.tcpConnected i) fun up => .net (.connected up)

/-- `_tcp->connect(host, port)`. -/
def connect (host : String) (port : Nat) : Sketch Bool :=
  ask (fun env i _ => env.tcpConnect i) fun ok => .net (.connect host port ok)

/-- `tcp->read()`. -/
def read : Sketch Int :=
  ask (fun env i _ => env.tcpRead i) fun c => .net (.read c)

/-- `_tcp->write(text)`: how many bytes were taken. -/
def write (text : String) : Sketch Nat :=
  ask (fun env i _ => env.tcpWrite i) fun n => .net (.write text n)

end Tcp

/-! ## `HTTPClientESP32Ex` -/

namespace Http

/-- `HTTPClient.h` of the ESP32 core. -/
def errorConnectionRefused : Int := -1

/-- `HTTPC_ERROR_SEND_HEADER_FAILED`. -/
def errorSendHeaderFailed : Int := -2

/-- `HTTPC_ERROR_SEND_PAYLOAD_FAILED`. -/
def errorSendPayloadFailed : Int := -3

/-- `HTTPC_ERROR_READ_TIMEOUT`. -/
def errorReadTimeout : Int := -11

/-- `HTTP_CODE_OK`. -/
def codeOk : Int := 200

/-- `HTTPCLIENT_DEFAULT_TCP_TIMEOUT`. -/
def tcpTimeout : UInt32 := 5000

/-- `http_begin(host, port, uri, CAcert)`; the certificate is null here. -/
def httpBegin (host : String) (port : Nat) (uri : String) : Sketch Unit :=
  assign fun v => { v with
    http := { v.http with transport := true, host := host, port := port, uri := uri } }

/-- `_tcp` dereferenced: the call, or a fault. -/
def deref {α : Type} (c : Sketch α) : Sketch α := do
  let v ← vars
  if v.http.tcp then c else fault

/-- `(_tcp->available() > 0) || _tcp->connected()`. -/
def socketAlive : Sketch Bool := do
  let n ← Tcp.available
  if n > 0 then
    return true
  else
    Tcp.connected

/-- `http_connected()`. -/
def httpConnected : Sketch Bool := do
  let v ← vars
  if v.http.tcp then
    socketAlive
  else
    return false

/-- `while (_tcp->available() > 0) _tcp->read();`. -/
def drain : Sketch Unit :=
  Prog.whileDo
    (do
      let n ← Tcp.available
      return decide (n > 0))
    (do
      let _ ← Tcp.read)

/-- `http_connect()`.  `verify` of `TLSTraits` always succeeds. -/
def httpConnect : Sketch Bool := do
  if ← httpConnected then
    drain
    return true
  else
    let v ← vars
    if !v.http.transport then
      return false
    else
      assign fun v => { v with http := { v.http with tcp := true } }
      if !(← Tcp.connect v.http.host v.http.port) then
        return false
      else
        httpConnected

/-- `http_sendHeader(header)`. -/
def httpSendHeader (header : String) : Sketch Bool := do
  if !(← httpConnected) then
    return false
  else
    let n ← Tcp.write header
    return n == header.utf8ByteSize

/-- The payload half of `http_sendRequest`. -/
def sendPayload (payload : String) : Sketch Int := do
  if payload.utf8ByteSize > 0 then
    let n ← deref (Tcp.write payload)
    return if n != payload.utf8ByteSize then errorSendPayloadFailed else 0
  else
    return 0

/-- `http_sendRequest(header, payload)`: a failed connect or header ends it with
a negative code. -/
def httpSendRequest (header payload : String) : Sketch Int := do
  if header.utf8ByteSize > 0 then
    if !(← httpConnect) then
      return errorConnectionRefused
    else if !(← httpSendHeader header) then
      return errorSendHeaderFailed
    else
      sendPayload payload
  else
    sendPayload payload

/-- `http_getStreamPtr()`: whether the pointer it returns is non-null. -/
def httpGetStreamPtr : Sketch Bool := do
  let up ← httpConnected
  mark (.streamPtr up)
  return up

end Http

/-! ## Reply parsing -/

namespace Reply

/-- `std::string::find(pat, start)`. -/
def findFrom (pat : List Char) : List Char → Nat → Option Nat
  | s, 0 =>
      if pat.isPrefixOf s then some 0
      else match s with
        | [] => none
        | _ :: rest => (findFrom pat rest 0).map (· + 1)
  | [], _ + 1 => none
  | _ :: rest, k + 1 => (findFrom pat rest k).map (· + 1)

/-- The first place of `pat` in `s`. -/
def find (pat s : List Char) : Option Nat := findFrom pat s 0

/-- The digits `atoi` reads, most significant first. -/
def digits (acc : Int) : List Char → Int
  | [] => acc
  | c :: rest =>
      if c.isDigit then digits (acc * 10 + (c.toNat - '0'.toNat : Nat)) rest
      else acc

/-- `isspace` of the C locale: the blank and the five controls from `\t` to
`\r`. -/
def isSpace (c : Char) : Bool := c == ' ' || ('\t' ≤ c && c ≤ '\r')

/-- `atoi(s)`: leading white space, one sign, digits up to anything else. -/
def atoi (s : List Char) : Int :=
  match s.dropWhile isSpace with
  | '-' :: rest => - digits 0 rest
  | '+' :: rest => digits 0 rest
  | rest => digits 0 rest

/-- `trim`: leading blanks, trailing blanks, then every CR and LF. -/
def trim (s : List Char) : List Char :=
  let s := s.dropWhile (· == ' ')
  let s := (s.reverse.dropWhile (· == ' ')).reverse
  (s.filter (· != '\r')).filter (· != '\n')

/-- `ESP32_LINE_NOTIFY_STR_36` to `_41`. -/
def strHttp : List Char := "HTTP/1.1 ".toList

/-- `ESP32_LINE_NOTIFY_STR_37`. -/
def strBlank : List Char := " ".toList

/-- `ESP32_LINE_NOTIFY_STR_38`. -/
def strLimit : List Char := "X-RateLimit-Limit: ".toList

/-- `ESP32_LINE_NOTIFY_STR_39`. -/
def strImageLimit : List Char := "X-RateLimit-ImageLimit: ".toList

/-- `ESP32_LINE_NOTIFY_STR_40`. -/
def strRemaining : List Char := "X-RateLimit-Remaining: ".toList

/-- `ESP32_LINE_NOTIFY_STR_41`. -/
def strImageRemaining : List Char := "X-RateLimit-ImageRemaining: ".toList

/-- What the reply loop has parsed so far. -/
structure Parsed where
  httpCode : Int
  limits : RateLimits

/-- The number after `key`, or `old` when the line has no `key`. -/
def field (key line : List Char) (old : Int) : Int :=
  match find key line with
  | some p1 => atoi (line.drop (p1 + key.length))
  | none => old

/-- One trimmed header line. -/
def parseLine (line : List Char) (r : Parsed) : Parsed :=
  match find strHttp line with
  | some p1 =>
      match findFrom strBlank line (p1 + strHttp.length) with
      | some p2 =>
          let start := p1 + strHttp.length
          { r with httpCode := atoi ((line.drop start).take (p2 - start)) }
      | none => r
  | none =>
      let limits : RateLimits :=
        { textLimit := field strLimit line r.limits.textLimit
          imageLimit := field strImageLimit line r.limits.imageLimit
          textRemaining := field strRemaining line r.limits.textRemaining
          imageRemaining := field strImageRemaining line r.limits.imageRemaining }
      { r with limits := limits }

/-- `(char) c`. -/
def toChar (c : Int) : Char := Char.ofNat (c % 256).toNat

end Reply

/-! ## `LineNotifyESP32` -/

namespace LineNotify

/-- `LineStatus`. -/
def sentCompleted : UInt8 := 0

/-- `SENT_FAILED`. -/
def sentFailed : UInt8 := 1

/-- The string table of `LineNotifyESP32.h`, as far as `sendLineMessage` uses
it. -/
def strHost : String := "notify-api.line.me"

/-- `ESP32_LINE_NOTIFY_STR_2`. -/
def strBoundary : String := "\x7bBOUNDARY\x7d"

/-- `ESP32_LINE_NOTIFY_STR_3`. -/
def strAgent : String := "ESP32"

/-- `ESP32_LINE_NOTIFY_STR_4`. -/
def crlf : String := "\r\n"

/-- `ESP32_LINE_NOTIFY_STR_5`. -/
def strPost : String := "POST /api/notify HTTP/1.1"

/-- `ESP32_LINE_NOTIFY_STR_6`. -/
def strNoCache : String := "cache-control: no-cache"

/-- `ESP32_LINE_NOTIFY_STR_7`. -/
def strAuth : String := "Authorization: Bearer "

/-- `ESP32_LINE_NOTIFY_STR_8`. -/
def strMultipart : String := "Content-Type: multipart/form-data; boundary="

/-- `ESP32_LINE_NOTIFY_STR_9`. -/
def strUserAgent : String := "User-Agent: "

/-- `ESP32_LINE_NOTIFY_STR_10`. -/
def strAccept : String := "Accept: */*"

/-- `ESP32_LINE_NOTIFY_STR_11`. -/
def strHostField : String := "Host: "

/-- `ESP32_LINE_NOTIFY_STR_12`. -/
def strEncoding : String := "accept-encoding: gzip, deflate"

/-- `ESP32_LINE_NOTIFY_STR_13`. -/
def strClose : String := "Connection: close"

/-- `ESP32_LINE_NOTIFY_STR_14`. -/
def strLength : String := "content-length: "

/-- `ESP32_LINE_NOTIFY_STR_15`. -/
def strUri : String := "/api/notify"

/-- `ESP32_LINE_NOTIFY_STR_18`. -/
def strDisposition : String := "Content-Disposition: form-data; name=\""

/-- `ESP32_LINE_NOTIFY_STR_19`. -/
def strMessage : String := "message"

/-- `ESP32_LINE_NOTIFY_STR_24`. -/
def strDashes : String := "--"

/-- `ESP32_LINE_NOTIFY_STR_25`. -/
def strQuote : String := "\""

/-- `LINE_PORT`. -/
def linePort : Nat := 443

/-- `init(token)`. -/
def init (token : String) : Sketch Unit := do
  net .spiffsBegin
  assign fun v => { v with token := token }

/-- `set_multipart_header(data, "message")`. -/
def multipartHeader : String :=
  strDashes ++ strBoundary ++ crlf ++
    strDisposition ++ strMessage ++ strQuote ++ crlf ++ crlf

/-- `set_multipart_boundary(data)`. -/
def multipartBoundary : String := strDashes ++ strBoundary ++ strDashes ++ crlf

/-- The request header of `send_request_header`. -/
def requestHeader (token : String) (contentLength : Nat) : String :=
  strPost ++ crlf ++ strNoCache ++ crlf ++ strAuth ++ token ++ crlf ++
    strMultipart ++ strBoundary ++ crlf ++ strUserAgent ++ strAgent ++ crlf ++
    strAccept ++ crlf ++ strHostField ++ strHost ++ crlf ++ strEncoding ++ crlf ++
    strClose ++ crlf ++ strLength ++ toString contentLength ++ crlf ++ crlf

/-- The payload of `sendLineMessage`. -/
def textHeader (msg : String) : String :=
  multipartHeader ++ msg ++ crlf ++ multipartBoundary

/-- `send_request_header(token, contentLength)`. -/
def sendRequestHeader (token : String) (contentLength : Nat) : Sketch Int :=
  Http.httpSendRequest (requestHeader token contentLength) ""

/-- `while (tcp->connected() && !tcp->available() && millis() - dataTime <
http.tcpTimeout) delay(1);` -/
def waitData (dataTime : UInt32) : Sketch Unit :=
  Prog.whileDo
    (do
      if !(← Tcp.connected) then
        return false
      else if (← Tcp.available) != 0 then
        return false
      else
        let now ← millis
        return decide (now - dataTime < Http.tcpTimeout))
    (delay 1)

/-- Loop variables of the reply loop. -/
structure ReadState where
  dataTime : UInt32
  lineBuf : List Char
  parsed : Reply.Parsed

/-- One character of the reply, and the line it completes. -/
def readChar (r : ReadState) : Sketch ReadState := do
  net .yield
  let c := Reply.toChar (← Tcp.read)
  let lineBuf := r.lineBuf ++ [c]
  if c = '\n' then
    let dataTime ← millis
    return ⟨dataTime, [], Reply.parseLine (Reply.trim lineBuf) r.parsed⟩
  else
    return { r with lineBuf := lineBuf }

/-- `while (tcp->available()) { … }`. -/
def readReply : ReadState → Sketch Reply.Parsed :=
  Prog.loop fun r => do
    if (← Tcp.available) = 0 then
      return .inr r.parsed
    else
      let r ← readChar r
      let now ← millis
      if now - r.dataTime > Http.tcpTimeout then
        return .inr { r.parsed with httpCode := Http.errorReadTimeout }
      else
        return .inl r

/-- The part of `waitLineResponse` that uses the stream pointer. -/
def awaitReply (dataTime : UInt32) : Sketch Reply.Parsed := do
  let start : Reply.Parsed := ⟨-1000, ⟨0, 0, 0, 0⟩⟩
  waitData dataTime
  let dataTime ← millis
  if !(← Tcp.connected) then
    return start
  else if (← Tcp.available) = 0 then
    return start
  else
    readReply ⟨dataTime, [], start⟩

/-- `waitLineResponse`.  The members `_textLimit` … are stored once, when the
reply loop ends; nothing reads them before. -/
def waitLineResponse : Sketch Bool := do
  let dataTime ← millis
  assign fun v => { v with limits := ⟨0, 0, 0, 0⟩ }
  if ← Http.httpGetStreamPtr then
    let r ← awaitReply dataTime
    assign fun v => { v with limits := r.limits }
    return r.httpCode == Http.codeOk
  else
    fault

/-- `return status`. -/
def answer (status : UInt8) : Sketch UInt8 := do
  mark (.sent status)
  return status

/-- `sendLineMessage(http, msg)`. -/
def sendLineMessage (msg : String) : Sketch UInt8 := do
  mark (.notify msg)
  Http.httpBegin strHost linePort strUri
  let v ← vars
  let payload := textHeader msg
  let _ ← sendRequestHeader v.token payload.utf8ByteSize
  let _ ← Http.httpSendRequest "" payload
  if ← waitLineResponse then
    answer sentCompleted
  else
    answer sentFailed

end LineNotify

end SprinklersAlarmClock
