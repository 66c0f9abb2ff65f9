import Pipa.Secure.Encoding

/- The two hellos of protocol v2, the record header and the audio metadata: as
   Python dictionaries that are written canonically (`secure_session.py`,
   `secure_audio.py`), and as the strings the firmware concatenates
   (`pipa_secure_handshake.cpp`, `pipa_secure_session.cpp`,
   `pipa_secure_audio.cpp`). A hello that `__post_init__` refuses cannot be
   built. -/
namespace Pipa.Secure
open Pipa.Lib

/-! ## Hellos -/

/-- `_validate_handshake_fields`. -/
def validateHandshakeFields (protocolVersion : Value)
    (sessionId clientId clientEphemeralPublicKey clientNonce : PyStr) : Bool :=
  protocolVersion.equalsInt secureProtocolVersion && isIdentifier sessionId && isIdentifier clientId &&
    (decodeText clientEphemeralPublicKey (some 32)).isSome && (decodeText clientNonce (some 32)).isSome

/-- `ClientHello`. -/
structure ClientHello where
  sessionId : PyStr
  clientId : PyStr
  clientEphemeralPublicKey : PyStr
  clientNonce : PyStr
  signature : PyStr
  protocolVersion : Value
  valid : validateHandshakeFields protocolVersion sessionId clientId clientEphemeralPublicKey clientNonce = true
  signed : (decodeText signature (some 64)).isSome = true

/-- `ServerHello`. -/
structure ServerHello where
  sessionId : PyStr
  clientId : PyStr
  serverId : PyStr
  clientEphemeralPublicKey : PyStr
  clientNonce : PyStr
  serverEphemeralPublicKey : PyStr
  serverNonce : PyStr
  signature : PyStr
  protocolVersion : Value
  valid : validateHandshakeFields protocolVersion sessionId clientId clientEphemeralPublicKey clientNonce = true
  server : isIdentifier serverId = true
  serverKey : (decodeText serverEphemeralPublicKey (some 32)).isSome = true
  serverNonceValid : (decodeText serverNonce (some 32)).isSome = true
  signed : (decodeText signature (some 64)).isSome = true

/-- The dictionary `ClientHello.unsigned_dict` returns. -/
def clientUnsigned (sessionId clientId clientEphemeralPublicKey clientNonce : PyStr)
    (protocolVersion : Value) : Object :=
  [(PyStr.ofString "client_ephemeral_public_key", .str clientEphemeralPublicKey),
   (PyStr.ofString "client_id", .str clientId),
   (PyStr.ofString "client_nonce", .str clientNonce),
   (PyStr.ofString "protocol_version", protocolVersion),
   (PyStr.ofString "session_id", .str sessionId)]

/-- The dictionary `ServerHello.transcript_dict` returns. -/
def serverTranscript (sessionId clientId serverId clientEphemeralPublicKey clientNonce
    serverEphemeralPublicKey serverNonce : PyStr) (protocolVersion : Value) : Object :=
  [(PyStr.ofString "client_ephemeral_public_key", .str clientEphemeralPublicKey),
   (PyStr.ofString "client_id", .str clientId),
   (PyStr.ofString "client_nonce", .str clientNonce),
   (PyStr.ofString "protocol_version", protocolVersion),
   (PyStr.ofString "server_ephemeral_public_key", .str serverEphemeralPublicKey),
   (PyStr.ofString "server_id", .str serverId),
   (PyStr.ofString "server_nonce", .str serverNonce),
   (PyStr.ofString "session_id", .str sessionId)]

/-- `{"role": role, **fields}`. -/
def withRole (role : String) (fields : Object) : Object :=
  (PyStr.ofString "role", .str (PyStr.ofString role)) :: fields

namespace ClientHello

def unsignedDict (h : ClientHello) : Object :=
  clientUnsigned h.sessionId h.clientId h.clientEphemeralPublicKey h.clientNonce h.protocolVersion

/-- `_client_signature_data`. -/
def signatureData (h : ClientHello) : Option Bytes := canonical (withRole "client" h.unsignedDict)

end ClientHello

namespace ServerHello

def transcriptDict (h : ServerHello) : Object :=
  serverTranscript h.sessionId h.clientId h.serverId h.clientEphemeralPublicKey h.clientNonce
    h.serverEphemeralPublicKey h.serverNonce h.protocolVersion

/-- `_server_signature_data`. -/
def signatureData (h : ServerHello) : Option Bytes := canonical (withRole "server" h.transcriptDict)

end ServerHello

/-! ## Record header -/

/-- The header of `SecureSession.seal` and `open`. -/
def recordHeader (sessionId : PyStr) (sequence : Nat) : Object :=
  [(PyStr.ofString "protocol_version", .int secureProtocolVersion),
   (PyStr.ofString "sequence", .int sequence),
   (PyStr.ofString "session_id", .str sessionId)]

/-! ## Audio metadata -/

def audioProtocolVersion : Int := 2
def audioSampleRate : Int := 16000
def audioChannels : Int := 1
def audioBitsPerSample : Int := 16
def maxAudioChunks : Nat := 64

/-- `_STREAM_ID_PATTERN`: `^[A-Za-z0-9_-]{1,64}$`. -/
def isStreamId (s : PyStr) : Bool := 1 ≤ s.length && s.length ≤ 64 && s.all (fun c => idCode c.val)

/-- The dictionary `_validate_metadata` returns. -/
def audioMetadata (streamId : PyStr) (chunkIndex : Nat) (final : Bool) : Object :=
  [(PyStr.ofString "audio_protocol_version", .int audioProtocolVersion),
   (PyStr.ofString "bits_per_sample", .int audioBitsPerSample),
   (PyStr.ofString "channels", .int audioChannels),
   (PyStr.ofString "chunk_index", .int chunkIndex),
   (PyStr.ofString "final", .bool final),
   (PyStr.ofString "sample_rate", .int audioSampleRate),
   (PyStr.ofString "stream_id", .str streamId)]

def audioFields : List PyStr :=
  [PyStr.ofString "audio_protocol_version", PyStr.ofString "bits_per_sample", PyStr.ofString "channels",
   PyStr.ofString "chunk_index", PyStr.ofString "final", PyStr.ofString "sample_rate",
   PyStr.ofString "stream_id"]

/-- The fields with one value that is let through. -/
def formatFields : List (PyStr × Int) :=
  [(PyStr.ofString "audio_protocol_version", audioProtocolVersion),
   (PyStr.ofString "sample_rate", audioSampleRate), (PyStr.ofString "channels", audioChannels),
   (PyStr.ofString "bits_per_sample", audioBitsPerSample)]

/-- `set(metadata) == fields`. -/
def hasFields (o : Object) (fields : List PyStr) : Bool :=
  o.keys.all (fun k => k ∈ fields) && fields.all (fun k => k ∈ o.keys)

/-- `_validate_metadata`; `none` is its `AudioFrameError`. -/
def validateMetadata (metadata : Object) : Option Object :=
  let get (k : String) : Value := (metadata.get? (PyStr.ofString k)).getD .null
  if !hasFields metadata audioFields then none
  else if !(get "audio_protocol_version").equalsInt audioProtocolVersion then none
  else match get "stream_id", get "chunk_index", get "final" with
    | .str streamId, .int chunkIndex, .bool final =>
      if !isStreamId streamId then none
      else if !(0 ≤ chunkIndex && chunkIndex < maxAudioChunks) then none
      else if chunkIndex = maxAudioChunks - 1 && !final then none
      else if !((get "sample_rate").equalsInt audioSampleRate && (get "channels").equalsInt audioChannels &&
          (get "bits_per_sample").equalsInt audioBitsPerSample) then none
      else some (audioMetadata streamId chunkIndex.toNat final)
    | _, _, _ => none

/-- `_additional_data`: `AUDIO_AAD_PREFIX + _canonical(metadata)`. -/
def additionalData (metadata : Object) : Option Bytes :=
  (canonical metadata).map (fun json => literal "pipa/audio/v2" ++ 0 :: json)

/-! ## The firmware's strings -/

namespace Firmware

/-- `clientSignedJson`. -/
def clientSignedJson (sessionId clientId clientEphemeralPublicKey clientNonce : Bytes) : Bytes :=
  literal "\x7b\"client_ephemeral_public_key\":\"" ++ clientEphemeralPublicKey ++
  literal "\",\"client_id\":\"" ++ clientId ++ literal "\",\"client_nonce\":\"" ++ clientNonce ++
  literal "\",\"protocol_version\":2,\"role\":\"client\",\"session_id\":\"" ++ sessionId ++
  literal "\"\x7d"

/-- `clientUnsignedJson`. -/
def clientUnsignedJson (sessionId clientId clientEphemeralPublicKey clientNonce : Bytes) : Bytes :=
  literal "\x7b\"client_ephemeral_public_key\":\"" ++ clientEphemeralPublicKey ++
  literal "\",\"client_id\":\"" ++ clientId ++ literal "\",\"client_nonce\":\"" ++ clientNonce ++
  literal "\",\"protocol_version\":2,\"session_id\":\"" ++ sessionId ++ literal "\"\x7d"

/-- `transcriptJson`. -/
def transcriptJson (sessionId clientId clientEphemeralPublicKey clientNonce serverId
    serverEphemeralPublicKey serverNonce : Bytes) : Bytes :=
  literal "\x7b\"client_ephemeral_public_key\":\"" ++ clientEphemeralPublicKey ++
  literal "\",\"client_id\":\"" ++ clientId ++ literal "\",\"client_nonce\":\"" ++ clientNonce ++
  literal "\",\"protocol_version\":2,\"server_ephemeral_public_key\":\"" ++ serverEphemeralPublicKey ++
  literal "\",\"server_id\":\"" ++ serverId ++ literal "\",\"server_nonce\":\"" ++ serverNonce ++
  literal "\",\"session_id\":\"" ++ sessionId ++ literal "\"\x7d"

/-- `serverSignedJson`. -/
def serverSignedJson (sessionId clientId clientEphemeralPublicKey clientNonce serverId
    serverEphemeralPublicKey serverNonce : Bytes) : Bytes :=
  literal "\x7b\"client_ephemeral_public_key\":\"" ++ clientEphemeralPublicKey ++
  literal "\",\"client_id\":\"" ++ clientId ++ literal "\",\"client_nonce\":\"" ++ clientNonce ++
  literal "\",\"protocol_version\":2,\"role\":\"server\",\"server_ephemeral_public_key\":\"" ++
  serverEphemeralPublicKey ++ literal "\",\"server_id\":\"" ++ serverId ++
  literal "\",\"server_nonce\":\"" ++ serverNonce ++ literal "\",\"session_id\":\"" ++ sessionId ++
  literal "\"\x7d"

/-- `headerFor`. -/
def headerFor (sessionId : Bytes) (sequence : UInt64) : Bytes :=
  literal "\x7b\"protocol_version\":2,\"sequence\":" ++ literal (toString sequence.toNat) ++
  literal ",\"session_id\":\"" ++ sessionId ++ literal "\"\x7d"

def maxStreamIdLength : Nat := 64
def maxAdditionalDataBytes : Nat := 1024

/-- `validStreamId`. -/
def validStreamId (s : Bytes) : Bool :=
  !s.isEmpty && s.length ≤ maxStreamIdLength && s.all (fun c => idCode c.toNat)

/-- The JSON part of the audio additional data. -/
def audioJson (streamId : Bytes) (chunkIndex : UInt16) (final : Bool) : Bytes :=
  literal "\x7b\"audio_protocol_version\":2,\"bits_per_sample\":16,\"channels\":1,\"chunk_index\":" ++
  literal (toString chunkIndex.toNat) ++ literal ",\"final\":" ++
  literal (if final then "true" else "false") ++ literal ",\"sample_rate\":16000,\"stream_id\":\"" ++
  streamId ++ literal "\"\x7d"

/-- `PipaSecureAudio::buildAdditionalData`. -/
def buildAdditionalData (streamId : Bytes) (chunkIndex : UInt16) (final : Bool) (outputCapacity : Nat) :
    Option Bytes :=
  if !validStreamId streamId || chunkIndex.toNat ≥ maxAudioChunks then none
  else if chunkIndex.toNat = maxAudioChunks - 1 && !final then none
  else
    let output := literal "pipa/audio/v2" ++ 0 :: audioJson streamId chunkIndex final
    if output.length > outputCapacity || output.length > maxAdditionalDataBytes then none
    else some output

end Firmware

end Pipa.Secure
