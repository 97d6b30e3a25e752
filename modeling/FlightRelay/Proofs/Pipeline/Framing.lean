import FlightRelay.Pipeline.FrameSource
import Mathlib.Algebra.Group.Nat.Defs
import Mathlib.Data.List.Basic

/-!
# Frames on a byte string

Taking a frame off the wire undoes putting it there, and the bytes before the place where the reading
ends are exactly the frames that were yielded.  So bodies that were framed come back in order, and
whatever the bytes are, the events of a connection are frames and then one end.  What is left behind the
whole frames, a `Frame.Stump`, decides the reason for it.
-/

namespace FlightRelay

namespace Frame

variable {max : Nat} {buffer body rest wire : List UInt8} {bodies : List (List UInt8)}

/-! ## The length in front of a body -/

theorem length_wordBytes (n : UInt32) : (wordBytes n).length = headerLength := rfl

/-- A header is read as the length that was written. -/
theorem ofBytes_wordBytes (n : UInt32) : ofBytes (wordBytes n) = n.toNat := by
  have hn : n.toNat < 2 ^ 32 := n.toNat_lt
  simp [ofBytes, wordBytes]
  omega

/-- Four bytes are a word of 32 bits, and the word has no other bytes. -/
theorem wordBytes_ofBytes {header : List UInt8} (h : header.length = headerLength) :
    ofBytes header < 2 ^ 32 ∧ wordBytes (ofBytes header).toUInt32 = header := by
  match header, h with
  | [a, b, c, d], _ =>
    have ha : a.toNat < 256 := a.toNat_lt
    have hb : b.toNat < 256 := b.toNat_lt
    have hc : c.toNat < 256 := c.toNat_lt
    have hd : d.toNat < 256 := d.toNat_lt
    have hvalue : ofBytes [a, b, c, d]
        = 256 * (256 * (256 * a.toNat + b.toNat) + c.toNat) + d.toNat := by
      simp [ofBytes]
    have hsmall : ofBytes [a, b, c, d] < 2 ^ 32 := by omega
    have hword : (ofBytes [a, b, c, d]).toUInt32.toNat = ofBytes [a, b, c, d] := by
      simp
      omega
    have digit : ∀ {n : Nat} {x : UInt8}, n = x.toNat → n.toUInt8 = x := by
      intro n x hn
      rw [hn]
      exact UInt8.ofNat_toNat
    refine ⟨hsmall, ?_⟩
    unfold wordBytes
    rw [hword, hvalue]
    simp only [List.map_cons, List.map_nil, List.cons.injEq, and_true]
    refine ⟨digit ?_, digit ?_, digit ?_, digit ?_⟩
    all_goals
      simp only [Nat.pow_eq]
      omega

/-! ## One frame -/

/-- A frame is put behind what is there. -/
theorem append_eq : append buffer body = buffer ++ append [] body := by
  simp [append]

/-- A frame that was put in front of other bytes is taken off again. -/
theorem readFrame_append (hmax : body.length ≤ max) (hword : body.length < 2 ^ 32) :
    readFrame max (append [] body ++ rest) = (.frame body, rest) := by
  have hlength : ofBytes (wordBytes body.length.toUInt32) = body.length := by
    rw [ofBytes_wordBytes]
    simp
    omega
  have htake : (append [] body ++ rest).take headerLength = wordBytes body.length.toUInt32 := by
    rw [append, List.nil_append, List.append_assoc, List.take_left' (length_wordBytes _)]
  have hdrop : (append [] body ++ rest).drop headerLength = body ++ rest := by
    rw [append, List.nil_append, List.append_assoc, List.drop_left' (length_wordBytes _)]
  have hheader : ¬ (append [] body ++ rest).length < headerLength := by
    simp [append, length_wordBytes]
  unfold readFrame
  rw [if_neg hheader, htake, hdrop, hlength]
  simp only [List.length_append]
  rw [if_neg (by omega), if_neg (by omega), List.take_left, List.drop_left]

/-- A body that was read fits, and its frame was in front of what is left. -/
theorem eq_append_of_frame (h : readFrame max wire = (.frame body, rest)) :
    body.length ≤ max ∧ body.length < 2 ^ 32 ∧ wire = append [] body ++ rest := by
  unfold readFrame at h
  split at h
  · cases h
  · rename_i hheader
    dsimp only at h
    split at h
    · cases h
    · rename_i hmax
      split at h
      · cases h
      · rename_i hlength
        obtain ⟨hbody, hrest⟩ := Prod.mk.inj h
        obtain rfl := Reading.frame.inj hbody
        have hfour : (wire.take headerLength).length = headerLength := by
          rw [List.length_take]
          omega
        obtain ⟨hsmall, hword⟩ := wordBytes_ofBytes hfour
        have htaken : ((wire.drop headerLength).take (ofBytes (wire.take headerLength))).length
            = ofBytes (wire.take headerLength) := by
          rw [List.length_take]
          omega
        refine ⟨by omega, by omega, ?_⟩
        rw [append, List.nil_append, htaken, hword, ← hrest, List.append_assoc,
          List.take_append_drop, List.take_append_drop]

/-- Many frames are put one behind the other. -/
theorem foldl_append : bodies.foldl append buffer = buffer ++ bodies.foldl append [] := by
  induction bodies generalizing buffer with
  | nil => simp
  | cons body bodies ih =>
    rw [List.foldl_cons, List.foldl_cons, ih, @ih (append [] body), append_eq,
      List.append_assoc]

end Frame

/-! ## Less than a frame -/

namespace Frame

variable {max : Nat} {tail : List UInt8} {reason : CloseReason}

/-- The reason for which reading ends, unless a frame was read. -/
def Reading.end? : Reading → Option CloseReason
  | .frame _ => none
  | .ended => some .peerClosed
  | .closed reason => some reason

/-- The length that the first bytes declare. -/
def declared (tail : List UInt8) : Nat := ofBytes (tail.take headerLength)

/-- Bytes of which no whole frame can be read, and the reason for which reading ends there. -/
inductive Stump (max : Nat) (tail : List UInt8) : CloseReason → Prop
  /-- Nothing is left, or less than a length. -/
  | headless (short : tail.length < headerLength) : Stump max tail .peerClosed
  /-- A body of the length that is declared would be allowed, but is not all there. -/
  | cut (header : headerLength ≤ tail.length) (allowed : declared tail ≤ max)
      (short : tail.length < headerLength + declared tail) : Stump max tail .readError
  /-- The length that is declared is not allowed. -/
  | tooLarge (header : headerLength ≤ tail.length) (large : max < declared tail) :
      Stump max tail .frameTooLarge

theorem stump_nil : Stump max [] .peerClosed := .headless (by decide)

/-- What reading comes to, said of the length that is declared. -/
theorem readFrame_eq (max : Nat) (wire : List UInt8) :
    readFrame max wire
      = if wire.length < headerLength then (.ended, [])
        else if max < declared wire then (.closed .frameTooLarge, wire.drop headerLength)
        else if wire.length < headerLength + declared wire then (.closed .readError, [])
        else (.frame ((wire.drop headerLength).take (declared wire)),
          (wire.drop headerLength).drop (declared wire)) := by
  unfold readFrame
  dsimp only
  rw [List.length_drop, ← declared]
  split
  · rfl
  · rename_i hheader
    congr 2
    exact propext ⟨fun h => by omega, fun h => by omega⟩

/-- Reading ends at a stump, for its reason. -/
theorem Stump.readFrame (h : Stump max tail reason) :
    ∃ reading rest, Frame.readFrame max tail = (reading, rest) ∧ reading.end? = some reason := by
  rw [readFrame_eq]
  cases h with
  | headless short =>
    rw [if_pos short]
    exact ⟨_, _, rfl, rfl⟩
  | cut header allowed short =>
    rw [if_neg (Nat.not_lt.mpr header), if_neg (Nat.not_lt.mpr allowed), if_pos short]
    exact ⟨_, _, rfl, rfl⟩
  | tooLarge header large =>
    rw [if_neg (Nat.not_lt.mpr header), if_pos large]
    exact ⟨_, _, rfl, rfl⟩

/-- Bytes begin with a whole frame, or they are a stump. -/
theorem readFrame_cases (max : Nat) (wire : List UInt8) :
    (∃ body rest, readFrame max wire = (.frame body, rest)) ∨ ∃ reason, Stump max wire reason := by
  rw [readFrame_eq]
  split
  · exact .inr ⟨_, .headless ‹_›⟩
  · rename_i hheader
    split
    · exact .inr ⟨_, .tooLarge (Nat.not_lt.mp hheader) ‹_›⟩
    · rename_i hallowed
      split
      · exact .inr ⟨_, .cut (Nat.not_lt.mp hheader) (Nat.not_lt.mp hallowed) ‹_›⟩
      · exact .inl ⟨_, _, rfl⟩

end Frame

/-! ## The events of a connection -/

namespace FrameSource

variable {s : FrameSource} {es : List ReadEvent} {id : ConnectionId} {max : Nat}
  {body rest wire : List UInt8} {bodies : List (List UInt8)}

/-- The source yields these events, one after the other, and then nothing more. -/
inductive Yields : FrameSource → List ReadEvent → Prop
  | ended {s : FrameSource} (h : s.next? = none) : Yields s []
  | event {s t : FrameSource} {e : ReadEvent} {es : List ReadEvent}
      (h : s.next? = some (e, t)) (more : Yields t es) : Yields s (e :: es)

/-- Every source yields its events, and only these. -/
theorem yields_iff : s.Yields es ↔ es = s.events := by
  constructor
  · intro h
    induction h with
    | ended h => rw [events, h]
    | event h more ih => rw [events, h, ih]
  · rintro rfl
    fun_induction events s with
    | case1 s h => exact .ended h
    | case2 s e t h ih => exact .event h ih

/-- The event of a body that was read. -/
def frameEvent (id : ConnectionId) (body : List UInt8) : ReadEvent := .frame id ⟨body.toArray⟩

/-- A body within the limit is passed on, and the source is at what follows it. -/
theorem next?_of_frame (h : Frame.readFrame max wire = (.frame body, rest)) :
    (start id max wire).next? = some (frameEvent id body, start id max rest) := by
  simp only [next?, start, h]
  rfl

/-- A connection without a whole frame yields its end. -/
theorem yields_end {reading : Frame.Reading} {reason : CloseReason}
    (h : Frame.readFrame max wire = (reading, rest)) (hend : reading.end? = some reason) :
    (start id max wire).Yields [.closed id reason] := by
  -- after the end was reported the source has nothing more
  refine .event (t := ⟨id, max, rest, true⟩) ?_ (.ended rfl)
  simp only [next?, start, h]
  cases reading with
  | frame body => cases hend
  | ended =>
    obtain rfl := Option.some.inj hend
    rfl
  | closed reason =>
    obtain rfl := Option.some.inj hend
    rfl

/-- A connection on which frames were sent yields their bodies in order, and then the end that the bytes
behind them make. -/
theorem yields_framed {tail : List UInt8} {reason : CloseReason}
    (fits : ∀ body ∈ bodies, body.length ≤ max ∧ body.length < 2 ^ 32)
    (hstump : Frame.Stump max tail reason) :
    (start id max (bodies.foldl Frame.append [] ++ tail)).Yields
      (bodies.map (frameEvent id) ++ [.closed id reason]) := by
  induction bodies with
  | nil =>
    obtain ⟨reading, rest, hread, hend⟩ := hstump.readFrame
    exact yields_end hread hend
  | cons body bodies ih =>
    obtain ⟨hmax, hword⟩ := fits body List.mem_cons_self
    rw [List.foldl_cons, Frame.foldl_append, List.append_assoc]
    exact .event (next?_of_frame (Frame.readFrame_append hmax hword))
      (ih fun b hb => fits b (List.mem_cons_of_mem _ hb))

/-- A connection on which nothing but frames was sent yields their bodies in order, and then that the peer
closed. -/
theorem yields_whole (fits : ∀ body ∈ bodies, body.length ≤ max ∧ body.length < 2 ^ 32) :
    (start id max (bodies.foldl Frame.append [])).Yields
      (bodies.map (frameEvent id) ++ [.closed id .peerClosed]) := by
  have hyields : (start id max (bodies.foldl Frame.append [] ++ [])).Yields
      (bodies.map (frameEvent id) ++ [.closed id .peerClosed]) := yields_framed fits Frame.stump_nil
  rwa [List.append_nil] at hyields

/-- Whatever the bytes are, they are whole frames of bodies that fit, and then bytes that make an end. -/
theorem exists_stump (max : Nat) (wire : List UInt8) :
    ∃ (bodies : List (List UInt8)) (tail : List UInt8) (reason : CloseReason),
      (∀ body ∈ bodies, body.length ≤ max ∧ body.length < 2 ^ 32) ∧
      wire = bodies.foldl Frame.append [] ++ tail ∧ Frame.Stump max tail reason := by
  -- a frame leaves fewer bytes
  induction hlength : wire.length using Nat.strongRecOn generalizing wire with
  | ind n ih =>
    rcases Frame.readFrame_cases max wire with ⟨body, rest, hread⟩ | ⟨reason, hstump⟩
    · obtain ⟨hmax, hword, rfl⟩ := Frame.eq_append_of_frame hread
      have hshorter := Frame.length_lt_of_frame hread
      obtain ⟨bodies, tail, reason, hfit, hsplit, hstump⟩ := ih _ (hlength ▸ hshorter) rest rfl
      refine ⟨body :: bodies, tail, reason, ?_, ?_, hstump⟩
      · intro b hb
        rcases List.mem_cons.mp hb with rfl | hb
        · exact ⟨hmax, hword⟩
        · exact hfit b hb
      · rw [List.foldl_cons, Frame.foldl_append, hsplit, List.append_assoc]
    · exact ⟨[], wire, reason, by simp, rfl, hstump⟩

/-- Whatever the bytes are, a connection yields the bodies of the frames they begin with, and one end. -/
theorem yields_frames (id : ConnectionId) (max : Nat) (wire : List UInt8) :
    ∃ (bodies : List (List UInt8)) (reason : CloseReason),
      (start id max wire).Yields (bodies.map (frameEvent id) ++ [.closed id reason]) ∧
      (∀ body ∈ bodies, body.length ≤ max) ∧ bodies.foldl Frame.append [] <+: wire := by
  obtain ⟨bodies, tail, reason, hfit, rfl, hstump⟩ := exists_stump max wire
  exact ⟨bodies, reason, yields_framed hfit hstump, fun body hbody => (hfit body hbody).1,
    List.prefix_append _ _⟩

/-- Bodies that fit come back in the order in which they were framed, and then that the peer closed; and
whatever the bytes are, the events are frames that fit, with which the bytes begin, and then one end. -/
theorem framing_aligned (id : ConnectionId) (max : Nat) :
    (∀ bodies : List (List UInt8), (∀ body ∈ bodies, body.length ≤ max ∧ body.length < 2 ^ 32) →
      (start id max (bodies.foldl Frame.append [])).Yields
        (bodies.map (frameEvent id) ++ [.closed id .peerClosed])) ∧
    ∀ wire : List UInt8, ∃ (bodies : List (List UInt8)) (reason : CloseReason),
      (start id max wire).Yields (bodies.map (frameEvent id) ++ [.closed id reason]) ∧
      (∀ body ∈ bodies, body.length ≤ max) ∧ bodies.foldl Frame.append [] <+: wire :=
  ⟨fun _ fits => yields_whole fits, yields_frames id max⟩

/-- An empty body and one of the greatest length that is allowed. -/
theorem framing_aligned_limit :
    (∀ body ∈ ([[], [7, 8, 9]] : List (List UInt8)), body.length ≤ 3 ∧ body.length < 2 ^ 32) ∧
      (start 5 3 [0, 0, 0, 0, 0, 0, 0, 3, 7, 8, 9]).events
        = [frameEvent 5 [], frameEvent 5 [7, 8, 9], .closed 5 .peerClosed] := by
  have fits : ∀ body ∈ ([[], [7, 8, 9]] : List (List UInt8)), body.length ≤ 3 ∧ body.length < 2 ^ 32 := by
    decide
  exact ⟨fits, (yields_iff.mp ((framing_aligned 5 3).1 [[], [7, 8, 9]] fits)).symm⟩

/-! ## The end of a connection -/

/-- A connection ends for a reason exactly if that is the reason of the stump behind its whole frames, and
every connection has such an end. -/
theorem closed_at_stump (id : ConnectionId) (max : Nat) (wire : List UInt8) :
    (∀ reason, (start id max wire).events.getLast? = some (.closed id reason) ↔
      ∃ (bodies : List (List UInt8)) (tail : List UInt8),
        (∀ body ∈ bodies, body.length ≤ max ∧ body.length < 2 ^ 32) ∧
        wire = bodies.foldl Frame.append [] ++ tail ∧ Frame.Stump max tail reason) ∧
    ∃ reason, (start id max wire).events.getLast? = some (.closed id reason) := by
  have hlast : ∀ {bodies : List (List UInt8)} {tail : List UInt8} {reason : CloseReason},
      (∀ body ∈ bodies, body.length ≤ max ∧ body.length < 2 ^ 32) →
      wire = bodies.foldl Frame.append [] ++ tail → Frame.Stump max tail reason →
      (start id max wire).events.getLast? = some (.closed id reason) := by
    intro bodies tail reason hfit hsplit hstump
    rw [← yields_iff.mp (hsplit ▸ yields_framed hfit hstump), List.getLast?_concat]
  obtain ⟨bodies, tail, reason, hfit, hsplit, hstump⟩ := exists_stump max wire
  refine ⟨fun reason' => ⟨fun hclosed => ?_, ?_⟩, reason, hlast hfit hsplit hstump⟩
  · rw [hlast hfit hsplit hstump] at hclosed
    obtain ⟨-, rfl⟩ := ReadEvent.closed.inj (Option.some.inj hclosed)
    exact ⟨bodies, tail, hfit, hsplit, hstump⟩
  · rintro ⟨bodies, tail, hfit, hsplit, hstump⟩
    exact hlast hfit hsplit hstump

/-- A stream that ends inside the length of a frame is no sequence of frames, and yet ends as if the peer
had closed between two of them. -/
theorem closed_inside_length :
    (start 7 16 [0]).events = [.closed 7 .peerClosed] ∧
      ¬ ∃ bodies : List (List UInt8), [0] = bodies.foldl Frame.append [] := by
  have hread : Frame.readFrame 16 [0] = (.ended, []) := rfl
  refine ⟨(yields_iff.mp (yields_end hread rfl)).symm, ?_⟩
  rintro ⟨_ | ⟨body, bodies⟩, h⟩
  · cases h
  · rw [List.foldl_cons, Frame.foldl_append] at h
    have hlength := congrArg List.length h
    simp [Frame.append, Frame.length_wordBytes, Frame.headerLength] at hlength
    omega

end FrameSource

end FlightRelay
