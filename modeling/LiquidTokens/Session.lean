import LiquidTokens.RegionCache

/-!
Sessions: one cache of region tables and a growing list of template streams that share its
tables. Operations name a stream by its place in the list.

Main statement: `Session.length_streams_le_apply` (no operation takes a stream away).
-/

namespace LiquidTokens

/-- A session. -/
structure Session where
  cache : RegionCache
  streams : List Template.Stream
  /-- The serial numbers of the tables that lookups have returned, each once, in order of
  first appearance. -/
  shown : List Nat

namespace Session

/-- What can be done in a session. -/
inductive Operation where
  /-- Looks up the region table of some delimiters. -/
  | get (delimiters : Delimiters)
  /-- Opens a stream of the tokens of a source. -/
  | «open» (delimiters : Delimiters) (source : String)
  /-- Asks a stream for its next token. -/
  | next (stream : Nat)
  /-- Adds a stream that stands where another does. -/
  | fork (stream : Nat)
  /-- Asks a stream for its source. -/
  | source (stream : Nat)
  /-- Empties the cache. -/
  | clear

/-- The answer to an operation. -/
inductive Reply where
  /-- A region table, told by its place among the tables that lookups have returned. -/
  | regions (place : Nat) (delimiters : Delimiters)
  /-- The place of a new stream. -/
  | stream (place : Nat)
  /-- What a stream yields, and the stream after it. -/
  | item (item : Option (Except LexError Token)) (after : Template.Stream)
  | source (text : String)
  | cleared
  | refused (error : SetupError)
  | noStream (place : Nat)

/-- A session with an empty cache and no streams. -/
def start (cache : RegionCache) : Session :=
  ⟨cache, [], []⟩

/-- Does what `act` says with the stream at a place, if there is one. -/
def withStream (session : Session) (place : Nat)
    (act : Template.Stream → Reply × Session) : Reply × Session :=
  match session.streams[place]? with
  | some stream => act stream
  | none => (.noStream place, session)

/-- The session with one stream more, and that stream's place. -/
def addStream (session : Session) (stream : Template.Stream) : Reply × Session :=
  (.stream session.streams.length, { session with streams := session.streams ++ [stream] })

/-- The place of a serial number among those shown, which it joins if it is new. -/
def «show» (session : Session) (serial : Nat) : Nat × Session :=
  match session.shown.idxOf? serial with
  | some place => (place, session)
  | none => (session.shown.length, { session with shown := session.shown ++ [serial] })

/-- Looks up the region table of some delimiters. -/
def get (session : Session) (delimiters : Delimiters) : Reply × Session :=
  let (found, cache) := session.cache.lookup delimiters
  let session := { session with cache }
  match found with
  | .error error => (.refused error, session)
  | .ok shared =>
      let (place, session) := session.show shared.serial
      (.regions place shared.regions.delimiters, session)

/-- Opens a stream of the tokens of a source. -/
def «open» (session : Session) (delimiters : Delimiters) (source : String) :
    Reply × Session :=
  let (opened, cache) := session.cache.tokenize delimiters source
  let session := { session with cache }
  match opened with
  | .error error => (.refused error, session)
  | .ok stream => session.addStream stream

/-- Asks the stream at a place for its next token. -/
def next (session : Session) (place : Nat) : Reply × Session :=
  session.withStream place fun stream =>
    let (item, after) := stream.next
    (.item item after, { session with streams := session.streams.set place after })

/-- Does one operation. -/
def apply (session : Session) : Operation → Reply × Session
  | .get delimiters => session.get delimiters
  | .open delimiters source => session.open delimiters source
  | .next place => session.next place
  | .fork place => session.withStream place session.addStream
  | .source place => session.withStream place fun stream => (.source stream.source, session)
  | .clear => (.cleared, { session with cache := session.cache.clear })

/-- No operation takes a stream away. -/
theorem length_streams_le_apply (session : Session) (operation : Operation) :
    session.streams.length ≤ (session.apply operation).2.streams.length := by
  cases operation with
  | get delimiters =>
      simp only [apply, get]
      split
      · exact Nat.le_refl _
      · simp only [«show»]
        split <;> exact Nat.le_refl _
  | «open» delimiters source =>
      simp only [apply, «open»]
      split
      · exact Nat.le_refl _
      · simp [addStream]
  | next place =>
      simp only [apply, next, withStream]
      split <;> simp
  | fork place =>
      simp only [apply, withStream]
      split <;> simp [addStream]
  | source place =>
      simp only [apply, withStream]
      split <;> simp
  | clear => exact Nat.le_refl _

end Session

end LiquidTokens
