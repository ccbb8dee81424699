/-
Captured output loses, doubles and reorders nothing.

Whatever the order in which readers send and the loop receives, each line of a stream is in
one of three places: not sent yet, in the channel, or in the output.  `Kept` says so, and that
what was sent of the two streams is merged into what has been or will be received.  Every event
keeps it, so when the loop finds the channel closed, the output is the two streams merged.

A run that ends before has the first lines of the streams, merged.
-/
import ScriptDeps.Capture
import ScriptDeps.Proofs.Capture.Lines

namespace ScriptDeps.Capture

/-! ### Merging two lists -/

/-- The third list holds the items of the first two, those of each in their order. -/
inductive Merges {α : Type} : List α → List α → List α → Prop
  | nil : Merges [] [] []
  | left {x : α} {xs ys zs : List α} (h : Merges xs ys zs) : Merges (x :: xs) ys (x :: zs)
  | right {y : α} {xs ys zs : List α} (h : Merges xs ys zs) : Merges xs (y :: ys) (y :: zs)

namespace Merges

variable {α : Type} {xs ys zs : List α}

theorem append_left (h : Merges xs ys zs) (x : α) : Merges (xs ++ [x]) ys (zs ++ [x]) := by
  induction h with
  | nil => exact .left .nil
  | left _ ih => exact .left ih
  | right _ ih => exact .right ih

theorem append_right (h : Merges xs ys zs) (y : α) : Merges xs (ys ++ [y]) (zs ++ [y]) := by
  induction h with
  | nil => exact .right .nil
  | left _ ih => exact .left ih
  | right _ ih => exact .right ih

/-- What stands in front of a merged list is merged from what stands in front of the two. -/
theorem of_append {ws : List α} (h : Merges xs ys (zs ++ ws)) :
    ∃ xs' ys', xs' <+: xs ∧ ys' <+: ys ∧ Merges xs' ys' zs := by
  induction zs generalizing xs ys with
  | nil => exact ⟨[], [], List.nil_prefix, List.nil_prefix, .nil⟩
  | cons z zs ih =>
      cases h with
      | left h =>
          obtain ⟨xs', ys', hxs, hys, hzs⟩ := ih h
          exact ⟨z :: xs', ys', List.cons_prefix_cons.mpr ⟨rfl, hxs⟩, hys, .left hzs⟩
      | right h =>
          obtain ⟨xs', ys', hxs, hys, hzs⟩ := ih h
          exact ⟨xs', z :: ys', hxs, List.cons_prefix_cons.mpr ⟨rfl, hys⟩, .right hzs⟩

end Merges

/-! ### Lines with their line ends -/

@[simp] theorem joined_nil : joined [] = "" := rfl

@[simp] theorem joined_append (lines more : List String) :
    joined (lines ++ more) = joined lines ++ joined more := by
  simp [joined]

theorem pushLine_joined (lines : List String) (line : String) :
    pushLine (joined lines) line = joined (lines ++ [line]) := by
  simp [pushLine, joined]

namespace Loop

/-! ### What every event keeps -/

section Kept

variable {all : Stream → List String} {l : Loop}

/-- Each line of the two streams is in one place, and in order. -/
structure Kept (all : Stream → List String) (l : Loop) : Prop where
  /-- What was sent is in the channel or has come out of it, merged. -/
  lines : ∃ sent : Stream → List String, (∀ stream, sent stream ++ l.channel.unsent stream =
    all stream) ∧ Merges (sent .out) (sent .err) (l.channel.received.reverse ++ l.channel.queue)
  /-- What has come out is in the output. -/
  output : l.output = joined l.channel.received.reverse
  /-- A reader comes to its end only after its last line. -/
  ended : ∀ stream, stream ∉ l.reading → l.channel.unsent stream = []
  /-- The loop finds the channel closed only when it is. -/
  closed : l.phase = .closed → l.reading = [] ∧ l.channel.queue = []

theorem kept_start (out err : List UInt8) :
    Kept (Channel.ofStreams out err).unsent (start out err) where
  lines := ⟨fun _ => [], fun _ => rfl, .nil⟩
  output := rfl
  ended stream h := by cases stream <;> simp [start] at h
  closed h := by simp [start] at h

/-- Once closed, the channel gets no more lines. -/
theorem Kept.unsent_of_closed (h : Kept all l) (hclosed : l.phase = .closed) (stream : Stream) :
    l.channel.unsent stream = [] :=
  h.ended stream (by simp [(h.closed hclosed).1])

/-- A line that is sent goes from the front of its stream to the end of the channel. -/
theorem send_eq {c : Channel} {stream : Stream} {line : String} {rest : List String}
    (h : c.unsent stream = line :: rest) :
    (c.step (.send stream)).queue = c.queue ++ [line] ∧
      (c.step (.send stream)).received = c.received ∧
      ∀ other, (c.step (.send stream)).unsent other =
        if other = stream then rest else c.unsent other := by
  cases stream with
  | out =>
      have hout : c.out = line :: rest := h
      simp only [Channel.step, hout, true_and]
      intro other
      cases other <;> rfl
  | err =>
      have herr : c.err = line :: rest := h
      simp only [Channel.step, herr, true_and]
      intro other
      cases other <;> rfl

theorem kept_read (h : Kept all l) (stream : Stream) : Kept all (l.read stream) := by
  unfold read
  by_cases hend : l.channel.unsent stream = []
  · rw [if_pos (by simp [hend])]
    refine ⟨h.lines, h.output, fun other hother => ?_, fun hclosed => ?_⟩
    · by_cases heq : other = stream
      · rw [heq]
        exact hend
      · refine h.ended other fun hmem => hother ?_
        simp [hmem, heq]
    · simp [(h.closed hclosed).1, (h.closed hclosed).2]
  · rw [if_neg (by simpa using hend)]
    obtain ⟨line, rest, hlines⟩ := List.exists_cons_of_ne_nil hend
    obtain ⟨hqueue, hreceived, hunsent⟩ := send_eq hlines
    obtain ⟨sent, hsent, hmerges⟩ := h.lines
    refine ⟨⟨fun other => if other = stream then sent stream ++ [line] else sent other,
      fun other => ?_, ?_⟩, ?_, fun other hother => ?_, fun hclosed => ?_⟩
    · show (if other = stream then _ else _) ++ _ = _
      rw [hunsent]
      by_cases heq : other = stream
      · rw [if_pos heq, if_pos heq, heq, ← hsent stream, hlines, List.append_assoc,
          List.singleton_append]
      · rw [if_neg heq, if_neg heq, hsent]
    · rw [hqueue, hreceived, ← List.append_assoc]
      cases stream with
      | out => exact hmerges.append_left line
      | err => exact hmerges.append_right line
    · rw [hreceived]
      exact h.output
    · have hne : other ≠ stream := fun heq => hend (heq ▸ h.ended other hother)
      rw [hunsent, if_neg hne, h.ended other hother]
    · exact absurd (h.unsent_of_closed hclosed stream) hend

theorem kept_receive (h : Kept all l) (hopen : l.phase ≠ .closed) : Kept all l.receive := by
  unfold receive
  split
  · rename_i line rest hqueue
    obtain ⟨sent, hsent, hmerges⟩ := h.lines
    have hchannel : l.channel.step .receive =
        { l.channel with queue := rest, received := line :: l.channel.received } := by
      simp only [Channel.step, hqueue]
    have hunsent : ∀ stream, (l.channel.step .receive).unsent stream = l.channel.unsent stream := by
      intro stream
      rw [hchannel]
      cases stream <;> rfl
    refine ⟨⟨sent, fun stream => ?_, ?_⟩, ?_, fun stream hend => ?_, fun hclosed => ?_⟩
    · rw [hunsent, hsent]
    · -- the line goes from the front of the channel to the end of what was received
      rw [hqueue] at hmerges
      simpa [hchannel] using hmerges
    · rw [hchannel, h.output, pushLine_joined, List.reverse_cons]
    · rw [hunsent, h.ended stream hend]
    · exact absurd hclosed hopen
  · rename_i hqueue
    split
    · rename_i hdone
      simp only [Bool.and_eq_true, beq_iff_eq, List.isEmpty_iff] at hdone
      exact ⟨h.lines, h.output, h.ended, fun _ => ⟨hdone.2, hqueue⟩⟩
    · exact h

/-- The loop goes on to another part of its work. -/
theorem Kept.withPhase (h : Kept all l) {phase : Phase} (hopen : phase ≠ .closed) :
    Kept all { l with phase } :=
  ⟨h.lines, h.output, h.ended, fun hclosed => absurd hclosed hopen⟩

theorem kept_step (h : Kept all l) (event : Event) : Kept all (l.step event) := by
  cases event with
  | read stream => exact kept_read h stream
  | receive =>
      rw [step]
      split
      · rename_i hphase
        refine kept_receive h fun hclosed => ?_
        simp [hclosed] at hphase
      · exact h
  | exit =>
      rw [step]
      split
      · exact h.withPhase (by decide)
      · exact h
  | expire =>
      rw [step]
      split
      · exact h.withPhase (by decide)
      · exact h

theorem kept_run (h : Kept all l) (events : List Event) : Kept all (l.run events) := by
  induction events generalizing l with
  | nil => exact h
  | cons event events ih => exact ih (kept_step h event)

end Kept

/-- Whatever happens, what is captured are the first lines of the two streams merged. -/
theorem output_merges_prefixes (out err : List UInt8) (events : List Event) :
    ∃ outLines errLines lines, outLines <+: Lines.ofBytes out ∧ errLines <+: Lines.ofBytes err ∧
      Merges outLines errLines lines ∧ ((start out err).run events).output = joined lines := by
  have hkept := kept_run (kept_start out err) events
  obtain ⟨sent, hsent, hmerges⟩ := hkept.lines
  obtain ⟨outLines, errLines, hout, herr, hlines⟩ := hmerges.of_append
  exact ⟨outLines, errLines, _, hout.trans ⟨_, hsent .out⟩, herr.trans ⟨_, hsent .err⟩, hlines,
    hkept.output⟩

/-- **What is captured of a run that ends with the channel closed is the two streams merged.**
Each stream gives its lines up to the first that is no text, each line with one line end. -/
theorem output_merges (out err : List UInt8) (events : List Event)
    (hclosed : ((start out err).run events).phase = .closed) :
    ∃ outLines errLines lines, Lines.Reads out outLines ∧ Lines.Reads err errLines ∧
      Merges outLines errLines lines ∧ ((start out err).run events).output = joined lines := by
  have hkept := kept_run (kept_start out err) events
  obtain ⟨sent, hsent, hmerges⟩ := hkept.lines
  -- all lines were sent, and none is in the channel
  have hall : ∀ stream, sent stream = (Channel.ofStreams out err).unsent stream := by
    intro stream
    rw [← hsent stream, hkept.unsent_of_closed hclosed, List.append_nil]
  rw [(hkept.closed hclosed).2, List.append_nil, hall, hall] at hmerges
  exact ⟨_, _, _, Lines.reads_ofBytes out, Lines.reads_ofBytes err, hmerges, hkept.output⟩

/-- The lines `a`, `b` and one that is no text. -/
def mixedBytes : List UInt8 :=
  "a\r\nb\n".toUTF8.toList ++ [255, 10]

/-- The line `x` without a line feed. -/
def openBytes : List UInt8 :=
  "x".toUTF8.toList

/-- The program ends while lines are on their way. -/
def mixedEvents : List Event :=
  [.read .out, .receive, .read .err, .read .out, .exit, .receive, .read .err, .receive, .read .out,
    .receive]

/-- Two lines of one stream and one of the other are captured in the order of their sending. -/
theorem output_merges_mixed :
    ((start mixedBytes openBytes).run mixedEvents).phase = .closed ∧
    ((start mixedBytes openBytes).run mixedEvents).output = "a\nx\nb\n" ∧
    ∃ outLines errLines lines, Lines.Reads mixedBytes outLines ∧ Lines.Reads openBytes errLines ∧
      Merges outLines errLines lines ∧
      ((start mixedBytes openBytes).run mixedEvents).output = joined lines := by
  have hclosed : ((start mixedBytes openBytes).run mixedEvents).phase = .closed := by
    decide +kernel
  exact ⟨hclosed, by decide +kernel, output_merges mixedBytes openBytes mixedEvents hclosed⟩

end Loop

end ScriptDeps.Capture
