import LiquidTokens.Proofs.RegionCache.Window
import LiquidTokens.Proofs.Template.Calls
import LiquidTokens.Session

/-!
Streams of a session do not notice one another, nor the cache.

A stream is made of the regions that its delimiters compile to, whether the cache had them or not,
and from then on only being asked for its next token changes it. So what a stream answers in the
course of a session is what it would answer alone, and a stream that was forked answers like the
one it was forked from would have.

Main statement: `streams_alone`.
-/

namespace LiquidTokens

open Template (RegionTable)

namespace Session

/-! ### Operations in a row -/

/-- The session after some operations. -/
def after (session : Session) (operations : List Operation) : Session :=
  operations.foldl (fun session operation => (session.apply operation).2) session

/-- An operation asks the stream at a place for its next token. -/
def Operation.asks (place : Nat) : Operation → Bool
  | .next stream => stream == place
  | _ => false

/-- What the replies to the operations that ask a stream say: each item, with the stream after
it. -/
def answersAt (place : Nat) (session : Session) :
    List Operation → List (Option (Except LexError Token) × Template.Stream)
  | [] => []
  | operation :: operations =>
      let later := answersAt place (session.apply operation).2 operations
      match (session.apply operation).1 with
      | .item item stream => if operation.asks place then (item, stream) :: later else later
      | _ => later

variable {session : Session} {place : Nat} {stream : Template.Stream}

theorem after_cons (operation : Operation) (operations : List Operation) :
    session.after (operation :: operations)
      = (session.apply operation).2.after operations := rfl

/-! ### Operations one by one -/

theorem withStream_of_some (there : session.streams[place]? = some stream)
    (act : Template.Stream → Reply × Session) : session.withStream place act = act stream := by
  simp only [withStream, there]

theorem streams_get (delimiters : Delimiters) :
    (session.get delimiters).2.streams = session.streams := by
  simp only [get]
  split
  · rfl
  · simp only [«show»]
    split <;> rfl

/-- An operation that does not ask a stream leaves it alone. -/
theorem streams_apply_of_not_asks (there : session.streams[place]? = some stream)
    {operation : Operation} (other : operation.asks place = false) :
    (session.apply operation).2.streams[place]? = some stream := by
  have within := List.getElem?_eq_some_iff.1 there
  have added (more : Template.Stream) : (session.streams ++ [more])[place]? = some stream := by
    rw [List.getElem?_append_left within.1, there]
  cases operation with
  | get delimiters => rw [apply, streams_get, there]
  | «open» delimiters source =>
      simp only [apply, «open»]
      split
      · exact there
      · exact added _
  | next asked =>
      simp only [Operation.asks, beq_eq_false_iff_ne] at other
      simp only [apply, next, withStream]
      split
      · simp only [List.getElem?_set_ne other, there]
      · exact there
  | fork parent =>
      simp only [apply, withStream]
      split
      · exact added _
      · exact there
  | source asked =>
      simp only [apply, withStream]
      split <;> exact there
  | clear => exact there

theorem apply_next (there : session.streams[place]? = some stream) :
    session.apply (.next place) = (.item stream.next.1 stream.next.2,
      { session with streams := session.streams.set place stream.next.2 }) :=
  withStream_of_some there _

theorem asks_iff {operation : Operation} :
    operation.asks place = true ↔ operation = .next place := by
  cases operation <;> simp [Operation.asks]

/-- Whatever is done in a session, a stream answers as it would alone. -/
theorem alone_of_there (there : session.streams[place]? = some stream)
    (operations : List Operation) :
    session.answersAt place operations = stream.answers (operations.countP (·.asks place))
      ∧ (session.after operations).streams[place]?
        = some (stream.asked (operations.countP (·.asks place))) := by
  induction operations generalizing session stream with
  | nil => exact ⟨rfl, there⟩
  | cons operation operations ih =>
      by_cases asks : operation.asks place = true
      · -- The stream moves on, and the rest is said of the stream behind it.
        obtain rfl := asks_iff.1 asks
        have moved : (session.apply (.next place)).2.streams[place]? = some stream.next.2 := by
          rw [apply_next there]
          exact List.getElem?_set_self (List.getElem?_eq_some_iff.1 there).1
        obtain ⟨answers, last⟩ := ih moved
        rw [List.countP_cons_of_pos asks]
        refine ⟨?_, last⟩
        rw [answersAt, answers, apply_next there]
        simp only [asks, if_true]
        rfl
      · obtain ⟨answers, last⟩ := ih (streams_apply_of_not_asks there (Bool.eq_false_iff.2 asks))
        rw [List.countP_cons_of_neg asks]
        refine ⟨?_, last⟩
        rw [answersAt, answers]
        simp only [asks]
        split <;> rfl

/-! ### The cache -/

/-- The cache of a session is used by lookups and cleared, and nothing else. -/
theorem sound_apply (sound : session.cache.Sound) (operation : Operation) :
    (session.apply operation).2.cache.Sound := by
  cases operation with
  | get delimiters =>
      have looked : (session.get delimiters).2.cache = (session.cache.lookup delimiters).2 := by
        simp only [get]
        split
        · rfl
        · simp only [«show»]
          split <;> rfl
      rw [apply, looked]
      exact sound.perform (.get delimiters)
  | «open» delimiters source =>
      have looked : (session.open delimiters source).2.cache
          = (session.cache.tokenize delimiters source).2 := by
        simp only [«open»]
        split <;> rfl
      rw [apply, looked]
      exact sound.perform (.tokenize delimiters source)
  | clear => exact sound.perform .clear
  | next stream | fork stream | source stream =>
      simp only [apply, next, withStream]
      split <;> exact sound

theorem sound_after (sound : session.cache.Sound) (operations : List Operation) :
    (session.after operations).cache.Sound := by
  induction operations generalizing session with
  | nil => exact sound
  | cons operation operations ih => exact ih (sound_apply sound operation)

/-! ### Streams -/

/-- The stream at a place of a session answers from now on as `stream` would alone, whatever else
is done. -/
def Alone (session : Session) (place : Nat) (stream : Template.Stream) : Prop :=
  ∀ later, session.answersAt place later = stream.answers (later.countP (·.asks place))
    ∧ (session.after later).streams[place]? = some (stream.asked (later.countP (·.asks place)))

theorem alone_addStream (session : Session) (stream : Template.Stream) :
    (session.addStream stream).2.Alone session.streams.length stream :=
  alone_of_there (by simp [addStream])

theorem get_of_error {delimiters : Delimiters} {error : SetupError}
    (refused : session.cache.lookup delimiters = (.error error, session.cache)) :
    session.get delimiters = (.refused error, session) := by
  simp only [get, refused]

theorem open_of_error {delimiters : Delimiters} {source : String} {error : SetupError}
    (refused : session.cache.lookup delimiters = (.error error, session.cache)) :
    session.open delimiters source = (.refused error, session) := by
  simp only [«open», RegionCache.tokenize, refused]
  rfl

theorem lookup_of_compile_error (sound : session.cache.Sound) {delimiters : Delimiters}
    {error : SetupError} (faulty : RegionTable.compile delimiters = .error error) :
    session.cache.lookup delimiters = (.error error, session.cache) := by
  cases present : session.cache.find? delimiters with
  | some shared =>
      have compiled := sound.compiled _ (RegionCache.mem_of_find? present)
      cases compiled.symm.trans faulty
  | none => simp only [RegionCache.lookup, present, faulty]

theorem open_of_compile_ok (sound : session.cache.Sound) {delimiters : Delimiters}
    {regions : RegionTable} (compiled : RegionTable.compile delimiters = .ok regions)
    (source : String) :
    session.open delimiters source
      = { session with cache := (session.cache.lookup delimiters).2 }.addStream
          (.start regions source) := by
  have found := sound.lookup_eq delimiters
  rw [compiled] at found
  simp only [«open», RegionCache.tokenize]
  cases looked : session.cache.lookup delimiters with
  | mk answer cache =>
      rw [looked] at found
      cases answer with
      | error error => cases found
      | ok shared =>
          cases found
          rfl

theorem get_of_compile_ok (sound : session.cache.Sound) {delimiters : Delimiters}
    {regions : RegionTable} (compiled : RegionTable.compile delimiters = .ok regions) :
    ∃ place, (session.get delimiters).1 = .regions place delimiters := by
  have found := sound.lookup_eq delimiters
  rw [compiled] at found
  have own := Template.RegionTable.delimiters_of_compile compiled
  simp only [get]
  cases looked : session.cache.lookup delimiters with
  | mk answer cache =>
      rw [looked] at found
      cases answer with
      | error error => cases found
      | ok shared =>
          have same : shared.regions = regions := Except.ok.inj found
          exact ⟨_, congrArg (Reply.regions _) (same ▸ own)⟩

/-- At any moment of any session, over a cache with or without a bound, a lookup of delimiters
answers with what they compile to, and one that fails leaves the session as it is. A stream that
is opened is a fresh one of the regions that its delimiters compile to, and a fork stands just
where the stream stands that it was forked from. Each stream answers from then on as it would
alone, whatever is done with the cache and with the others. -/
theorem streams_alone (limit : Option Nat) (operations : List Operation) :
    let session := (start (.limited limit)).after operations
    (∀ delimiters, (session.cache.lookup delimiters).1.map SharedRegions.regions
        = RegionTable.compile delimiters)
      ∧ (∀ delimiters source error, RegionTable.compile delimiters = .error error →
        session.apply (.get delimiters) = (.refused error, session)
          ∧ session.apply (.open delimiters source) = (.refused error, session))
      ∧ (∀ delimiters source regions, RegionTable.compile delimiters = .ok regions →
        (∃ place, (session.apply (.get delimiters)).1 = .regions place delimiters)
          ∧ (session.apply (.open delimiters source)).1 = .stream session.streams.length
          ∧ (session.apply (.open delimiters source)).2.Alone session.streams.length
            (.start regions source))
      ∧ ∀ place stream, session.streams[place]? = some stream →
        session.Alone place stream
          ∧ (session.apply (.fork place)).1 = .stream session.streams.length
          ∧ (session.apply (.fork place)).2.Alone session.streams.length stream
          ∧ (session.apply (.fork place)).2.Alone place stream := by
  intro session
  have sound : session.cache.Sound :=
    sound_after (RegionCache.sound_limited limit) operations
  refine ⟨sound.lookup_eq, fun delimiters source error faulty => ?_,
    fun delimiters source regions compiled => ⟨get_of_compile_ok sound compiled, ?_⟩,
    fun place stream there => ⟨alone_of_there there, ?_⟩⟩
  · have refused := lookup_of_compile_error sound faulty
    exact ⟨get_of_error refused, open_of_error refused⟩
  · rw [apply, open_of_compile_ok sound compiled]
    exact ⟨rfl, alone_addStream _ _⟩
  · have kept := streams_apply_of_not_asks there
      (show (Operation.fork place).asks place = false from rfl)
    rw [apply, withStream_of_some there] at kept ⊢
    exact ⟨rfl, alone_addStream session stream, alone_of_there kept⟩

/-- A stream that is forked between a tag and its expression, over a cache that holds one table at
a time: both give the expression, whatever comes between. -/
theorem streams_alone_fork :
    ∃ stream, ((start (.limited (some 0))).after
        [.open .standard "\x7b% if a %\x7d", .next 0]).streams[0]? = some stream
      ∧ stream.pending = some ⟨1, .expression, "a"⟩
      ∧ (((start (.limited (some 0))).after [.open .standard "\x7b% if a %\x7d", .next 0]).apply
          (.fork 0)).2.answersAt 0 [.next 1, .clear, .next 0] = stream.answers 1 := by
  have compiled : RegionTable.compile .standard = .ok (Template.regionTable .standard) :=
    Template.compile_eq_ok rfl
  have opened : ((start (.limited (some 0))).apply (.open .standard "\x7b% if a %\x7d")).2.Alone 0
      (.start (Template.regionTable .standard) "\x7b% if a %\x7d") :=
    ((streams_alone (some 0) []).2.2.1 .standard "\x7b% if a %\x7d" _ compiled).2.2
  generalize begun : Template.Stream.start (Template.regionTable .standard) "\x7b% if a %\x7d"
    = stream at opened
  have there := (opened [.next 0]).2
  rw [← after_cons] at there
  have forked := ((streams_alone (some 0) _).2.2.2 0 _ there).2.2.2
  refine ⟨stream.asked 1, there, ?_, (forked [.next 1, .clear, .next 0]).1⟩
  rw [← begun]
  decide +kernel

end Session

end LiquidTokens
