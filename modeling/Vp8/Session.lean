import Vp8.Session.Stream

/-!
Decoding a stream packet by packet. A session is what earlier packets left behind; decoding a packet
yields a new session and either a frame or the reason why there is none. A keyframe sets a session
up, and one that fails makes it refuse all other frames until the next keyframe.
-/
namespace Vp8

structure Session where
  limits : Limits
  stream : Option Stream
  carried : Carried
  awaitingKeyframe : Bool
  /-- How many packets were decoded without an error. -/
  frameCount : Nat

def isKeyframe (packet : ByteArray) : Bool :=
  tagSize ≤ packet.size && BoolReader.byteAt packet 0 % 2 == 0

namespace Session

def start (limits : Limits) : Session where
  limits := limits
  stream := none
  carried := .default
  awaitingKeyframe := true
  frameCount := 0

def reset (s : Session) : Session := start s.limits

def dimensions (s : Session) : Nat × Nat := s.stream.elim (0, 0) fun t => (t.width, t.height)

/-- What a packet with this preamble goes on from: a keyframe from a stream of its size and from
    defaults, any other frame from what the session holds. -/
def enter (s : Session) (memory : Memory) (preamble : Preamble) :
    Except DecodeError (Stream × Carried) :=
  match preamble.keyframeSize with
  | some size => do return (← Stream.configure s.limits memory s.stream size, .default)
  | none =>
    match s.awaitingKeyframe, s.stream with
    | false, some t => .ok (t, s.carried)
    | _, _ => .error .missingKeyframe

/-- What is left if a packet cannot be gone on with. The old stream is given up before memory is
    asked for a new one. -/
def giveUp (s : Session) : DecodeError → Session
  | .allocationFailed _ => { s with stream := none }
  | _ => s

def settle (before : Carried) (h : Headers) : Carried :=
  if h.header.refreshEntropy then h.carried else { h.carried with entropy := before.entropy }

def decodeFrom (s : Session) (packet : ByteArray) (preamble : Preamble) (t : Stream)
    (carried : Carried) : Session × Except DecodeError Frame :=
  match Headers.read packet preamble carried with
  | .error e => ({ s with stream := some t }, .error e)
  | .ok h =>
    match t.decode h with
    | (t, .error e) => ({ s with stream := some t }, .error e)
    | (t, .ok true) =>
      ({ s with stream := some t, carried := settle s.carried h },
        .error (.corruptFrame .frameEndsEarly))
    | (t, .ok false) =>
      ({ s with
          stream := some t
          carried := settle s.carried h
          awaitingKeyframe := s.awaitingKeyframe && !h.tag.keyframe
          frameCount := s.frameCount + 1 },
        .ok (t.frame h.tag))

def decodePacket (s : Session) (memory : Memory) (packet : ByteArray) :
    Session × Except DecodeError Frame :=
  match Preamble.parse packet with
  | .error e => (s, .error e)
  | .ok preamble =>
    match s.enter memory preamble with
    | .error e => (s.giveUp e, .error e)
    | .ok (t, carried) => s.decodeFrom packet preamble t carried

/-- What an error means for later packets. After a failed keyframe nothing but a keyframe will do. A
    damaged frame of another kind may have been meant to replace the last one. -/
def recover (s : Session) (keyframe : Bool) (e : DecodeError) : Session × DecodeError :=
  if keyframe then ({ s with awaitingKeyframe := true }, e.ofKeyframe)
  else match e with
    | .corruptFrame _ => ({ s with stream := s.stream.map Stream.markLastDamaged }, e)
    | _ => (s, e)

def decode (s : Session) (memory : Memory) (packet : ByteArray) :
    Session × Except DecodeError Frame :=
  match s.decodePacket memory packet with
  | (s, .ok frame) => (s, .ok frame)
  | (s, .error e) =>
    let (s, e) := s.recover (isKeyframe packet) e
    (s, .error e)

end Session

end Vp8
