/-
Known runs are runs of the loop.

A known run is one in which each line is received as soon as it is sent, first while the program
runs and then up to a deadline.  `Passed` says what that does to the channel and to the loop, and
it can be taken apart wherever the program ends and wherever the taking of lines stops.  So what
`Capture.output` computes is the output of a run of the loop, and holds the first lines of the
two streams.

After the end of the program each attempt to take a line but the last one takes one
(`pairwise_attempts`).  So the deadline ends the loop at the first attempt that is late, unless
that attempt finds a line, and then it does not end it before the lines do.
-/
import ScriptDeps.Proofs.Capture.Loop

namespace ScriptDeps.Capture

/-! ### Lines that pass at once -/

/-- The lines that the readers come to are there. -/
def Fits (c : Channel) (order : List Stream) : Prop :=
  ∀ stream, order.count stream ≤ (c.unsent stream).length

theorem count_readable (outLeft errLeft : Nat) (order : List (Nat × Stream)) :
    ((readable outLeft errLeft order).map Prod.snd).count .out ≤ outLeft ∧
      ((readable outLeft errLeft order).map Prod.snd).count .err ≤ errLeft := by
  fun_induction readable outLeft errLeft order with
  | case1 => simp
  | case2 _ _ _ _ hleft ih => rwa [beq_iff_eq.mp hleft]
  | case3 outLeft errLeft time rest hleft ih =>
      simp only [List.map_cons, List.count_cons, beq_iff_eq, reduceCtorEq, ↓reduceIte] at ih hleft ⊢
      omega
  | case4 _ _ _ _ hleft ih => rwa [beq_iff_eq.mp hleft]
  | case5 outLeft errLeft time rest hleft ih =>
      simp only [List.map_cons, List.count_cons, beq_iff_eq, reduceCtorEq, ↓reduceIte] at ih hleft ⊢
      omega

/-- The steps of the channel when each line is received as soon as it is sent. -/
def passing (order : List Stream) : List Channel.Move :=
  order.flatMap fun stream => [.send stream, .receive]

/-- The events of the loop at that. -/
def passingEvents (order : List Stream) : List Event :=
  order.flatMap fun stream => [.read stream, .receive]

/-- The lines have gone through the channel, and the loop has put them to the output. -/
structure Passed (c : Channel) (order : List Stream) (lines : List String) : Prop where
  length : lines.length = order.length
  queue : (c.run (passing order)).queue = []
  received : (c.run (passing order)).received = lines.reverse ++ c.received
  unsent : ∀ stream, ((c.run (passing order)).unsent stream).length + order.count stream =
    (c.unsent stream).length
  loop : ∀ (reading : List Stream) (phase : Phase) (output : String),
    phase = .waiting ∨ phase = .draining →
    Loop.run ⟨c, reading, phase, output⟩ (passingEvents order) =
      ⟨c.run (passing order), reading, phase, output ++ joined lines⟩

namespace Passed

variable {c : Channel} {order more : List Stream} {lines others : List String}

theorem nil (hqueue : c.queue = []) : Passed c [] [] where
  length := rfl
  queue := hqueue
  received := rfl
  unsent _ := rfl
  loop reading phase output _ := by
    rw [joined_nil, String.append_empty]
    rfl

/-- One line is in the channel alone, and comes out of it. -/
theorem one {stream : Stream} {line : String} {rest : List String} (hqueue : c.queue = [])
    (hlines : c.unsent stream = line :: rest) : Passed c [stream] [line] := by
  obtain ⟨hsent, hreceived, hunsent⟩ := Loop.send_eq hlines
  rw [hqueue, List.nil_append] at hsent
  have hrun : c.run (passing [stream]) = { c.step (.send stream) with
      queue := [], received := line :: c.received } := by
    show (c.step (.send stream)).step .receive = _
    rw [Channel.step, hsent, hreceived]
  refine ⟨rfl, by rw [hrun], by rw [hrun]; rfl, fun other => ?_,
    fun reading phase output hphase => ?_⟩
  · have hleft : (c.run (passing [stream])).unsent other =
        if other = stream then rest else c.unsent other := by
      rw [← hunsent other, hrun]
      cases other <;> rfl
    rw [hleft]
    by_cases heq : other = stream
    · simp [heq, hlines]
    · simp [heq, Ne.symm heq]
  · have hread : Loop.step ⟨c, reading, phase, output⟩ (.read stream) =
        ⟨c.step (.send stream), reading, phase, output⟩ := by
      rw [Loop.step, Loop.read, if_neg (by simp [hlines])]
    have hreceive : Loop.step ⟨c.step (.send stream), reading, phase, output⟩ .receive =
        ⟨c.run (passing [stream]), reading, phase, pushLine output line⟩ := by
      rw [Loop.step, if_pos (by simpa using hphase), Loop.receive]
      simp only [hsent]
      rfl
    show Loop.step (Loop.step _ (.read stream)) .receive = _
    rw [hread, hreceive]
    simp [pushLine, joined]

theorem append (h : Passed c order lines) (hmore : Passed (c.run (passing order)) more others) :
    Passed c (order ++ more) (lines ++ others) := by
  have hrun : c.run (passing (order ++ more)) = (c.run (passing order)).run (passing more) := by
    rw [passing, List.flatMap_append]
    exact List.foldl_append
  refine ⟨by simp [h.length, hmore.length], ?_, ?_, fun stream => ?_,
    fun reading phase output hphase => ?_⟩
  · rw [hrun, hmore.queue]
  · rw [hrun, hmore.received, h.received, List.reverse_append, List.append_assoc]
  · have hfirst := h.unsent stream
    have hsecond := hmore.unsent stream
    rw [hrun, List.count_append]
    omega
  · have hevents : Loop.run ⟨c, reading, phase, output⟩ (passingEvents (order ++ more)) =
        (Loop.run ⟨c, reading, phase, output⟩ (passingEvents order)).run (passingEvents more) := by
      rw [passingEvents, List.flatMap_append]
      exact List.foldl_append
    rw [hevents, h.loop _ _ _ hphase, hmore.loop _ _ _ hphase, hrun, joined_append,
      String.append_assoc]

/-- What has come out tells which lines have passed. -/
theorem unique (h : Passed c order lines) (ho : Passed c order others) : lines = others := by
  have hreceived := h.received.symm.trans ho.received
  rwa [List.append_cancel_right_eq, List.reverse_inj] at hreceived

theorem fits_rest (h : Passed c order lines) (hfits : Fits c (order ++ more)) :
    Fits (c.run (passing order)) more := by
  intro stream
  have hall := hfits stream
  have hleft := h.unsent stream
  rw [List.count_append] at hall
  omega

end Passed

theorem Fits.front {c : Channel} {order more : List Stream} (h : Fits c (order ++ more)) :
    Fits c order := by
  intro stream
  have hall := h stream
  rw [List.count_append] at hall
  omega

/-- Lines that are there pass. -/
theorem exists_passed {c : Channel} {order : List Stream} (hqueue : c.queue = [])
    (hfits : Fits c order) : ∃ lines, Passed c order lines := by
  induction order generalizing c with
  | nil => exact ⟨[], .nil hqueue⟩
  | cons stream order ih =>
      have hsome : 0 < (c.unsent stream).length := by
        have hcount := hfits stream
        rw [List.count_cons_self] at hcount
        omega
      obtain ⟨line, rest, hlines⟩ := List.exists_cons_of_length_pos hsome
      have hone : Passed c [stream] [line] := .one hqueue hlines
      obtain ⟨lines, hpassed⟩ := ih hone.queue (hone.fits_rest hfits)
      exact ⟨line :: lines, hone.append hpassed⟩

/-- Every two streams have a run that ends with the channel closed. -/
theorem exists_closed_run (out err : List UInt8) :
    ∃ events, ((Loop.start out err).run events).phase = .closed := by
  have hfits : Fits (.ofStreams out err) (List.replicate (Lines.ofBytes out).length .out ++
      List.replicate (Lines.ofBytes err).length .err) := by
    intro stream
    cases stream <;> simp [List.count_replicate, Channel.ofStreams, Channel.unsent]
  obtain ⟨lines, hpassed⟩ := exists_passed rfl hfits
  generalize horder : List.replicate (Lines.ofBytes out).length Stream.out ++
    List.replicate (Lines.ofBytes err).length .err = order at hpassed
  have hsent : ∀ stream, ((Channel.ofStreams out err).run (passing order)).unsent stream = [] := by
    intro stream
    have hunsent := hpassed.unsent stream
    rw [← horder] at hunsent ⊢
    cases stream <;>
      simpa [List.count_replicate, Channel.ofStreams, Channel.unsent] using hunsent
  refine ⟨passingEvents order ++ [.read .out, .read .err, .exit, .receive], ?_⟩
  rw [Loop.run, List.foldl_append]
  show (List.foldl _ (Loop.run ⟨_, _, .waiting, ""⟩ (passingEvents order)) _).phase = _
  rw [hpassed.loop _ _ _ (Or.inl rfl)]
  simp [Loop.step, Loop.read, Loop.receive, hsent, hpassed.queue]

/-- The program may end while lines pass, and the loop may stop after that. -/
theorem exists_run_of_passed {out err : List UInt8} {order : List Stream}
    {early late unread : List String} (hfits : Fits (.ofStreams out err) order)
    (h : Passed (.ofStreams out err) order (early ++ (late ++ unread))) :
    ∃ events, ((Loop.start out err).run events).output = joined (early ++ late) := by
  have hlength := h.length
  rw [List.length_append, List.length_append] at hlength
  -- the order is taken apart as the lines are
  obtain ⟨first, rest, rfl, hfirst⟩ : ∃ first rest, order = first ++ rest ∧
      first.length = early.length :=
    ⟨_, _, (List.take_append_drop early.length order).symm, by rw [List.length_take]; omega⟩
  obtain ⟨second, third, rfl, hsecond⟩ : ∃ second third, rest = second ++ third ∧
      second.length = late.length := by
    rw [List.length_append] at hlength
    exact ⟨_, _, (List.take_append_drop late.length rest).symm, by rw [List.length_take]; omega⟩
  obtain ⟨lines, hearly⟩ := exists_passed rfl hfits.front
  have hfits := hearly.fits_rest hfits
  obtain ⟨more, hlate⟩ := exists_passed hearly.queue hfits.front
  obtain ⟨others, hrest⟩ := exists_passed hlate.queue (hlate.fits_rest hfits)
  -- and what has passed in the parts is what has passed of the whole
  obtain ⟨rfl, hback⟩ := List.append_inj (h.unique (hearly.append (hlate.append hrest)))
    (hfirst.symm.trans hearly.length.symm)
  obtain ⟨rfl, -⟩ := List.append_inj hback (hsecond.symm.trans hlate.length.symm)
  refine ⟨passingEvents first ++ .exit :: passingEvents second, ?_⟩
  rw [Loop.run, List.foldl_append]
  show (List.foldl _ (Loop.run ⟨_, _, .waiting, ""⟩ (passingEvents first)) _).output = _
  rw [hearly.loop _ _ _ (Or.inl rfl)]
  show (Loop.run ⟨_, _, .draining, _⟩ (passingEvents second)).output = _
  rw [hlate.loop _ _ _ (Or.inr rfl), joined_append, String.empty_append]

/-! ### The output of a known run -/

/-- After the end the lines are taken that come in time, in order. -/
theorem drain_turns_prefix (deadline now : Nat) (lines : List (Nat × String)) :
    drain deadline (turns now lines) <+: lines.map Prod.snd := by
  induction lines generalizing now with
  | nil => exact List.nil_prefix
  | cons timed lines ih =>
      rw [turns, drain]
      split
      · exact List.nil_prefix
      · rename_i delay line hnext
        cases hnext
        split
        · exact List.prefix_cons_inj timed.2 |>.mpr (ih _)
        · exact List.nil_prefix

/-- The streams in the order in which their lines are complete, as far as they are read. -/
def readOrder (printed : List Printed) (closing : Nat) : List (Nat × Stream) :=
  let start := Channel.ofStreams (bytesOf .out printed) (bytesOf .err printed)
  readable start.out.length start.err.length (completions closing false false printed)

/-- The lines of a known run are those that pass the channel in that order. -/
theorem exists_timedLines_eq (printed : List Printed) (closing : Nat) :
    Fits (.ofStreams (bytesOf .out printed) (bytesOf .err printed))
        ((readOrder printed closing).map Prod.snd) ∧
      ∃ lines, Passed (.ofStreams (bytesOf .out printed) (bytesOf .err printed))
          ((readOrder printed closing).map Prod.snd) lines ∧
        timedLines printed closing = ((readOrder printed closing).map Prod.fst).zip lines := by
  have hfits : Fits (.ofStreams (bytesOf .out printed) (bytesOf .err printed))
      ((readOrder printed closing).map Prod.snd) := by
    intro stream
    cases stream with
    | out => exact (count_readable _ _ _).1
    | err => exact (count_readable _ _ _).2
  obtain ⟨lines, hpassed⟩ := exists_passed rfl hfits
  refine ⟨hfits, lines, hpassed, ?_⟩
  have hreceived : ((Channel.ofStreams _ _).run _).received = lines.reverse ++ [] :=
    hpassed.received
  rw [passing, List.flatMap_map] at hreceived
  show List.zip _ (Channel.received _).reverse = _
  rw [List.append_nil] at hreceived
  exact congrArg _ ((congrArg List.reverse hreceived).trans lines.reverse_reverse)

/-- The output of a known run is that of a run of the loop. -/
theorem exists_run_output (printed : List Printed) (stop closing : Nat) :
    ∃ events, ((Loop.start (bytesOf .out printed) (bytesOf .err printed)).run events).output =
      output printed stop closing := by
  obtain ⟨hfits, lines, hpassed, htimed⟩ := exists_timedLines_eq printed closing
  have hsnd : (timedLines printed closing).map Prod.snd = lines := by
    rw [htimed, List.map_snd_zip]
    simp [hpassed.length]
  obtain ⟨unread, hunread⟩ := drain_turns_prefix (stop + grace) stop
    ((timedLines printed closing).dropWhile (·.1 ≤ stop))
  -- the lines that are received before the end, those after it, and those that are left
  have hparts : ((timedLines printed closing).takeWhile (·.1 ≤ stop)).map Prod.snd ++
      (drain (stop + grace)
        (turns stop ((timedLines printed closing).dropWhile (·.1 ≤ stop))) ++ unread) = lines := by
    rw [hunread, ← List.map_append, List.takeWhile_append_dropWhile, hsnd]
  exact exists_run_of_passed hfits (hparts ▸ hpassed)

/-- What a known run captures are the first lines of its streams, merged. -/
theorem output_prefixes (printed : List Printed) (stop closing : Nat) :
    ∃ outLines errLines lines, outLines <+: Lines.ofBytes (bytesOf .out printed) ∧
      errLines <+: Lines.ofBytes (bytesOf .err printed) ∧ Merges outLines errLines lines ∧
      output printed stop closing = joined lines := by
  obtain ⟨events, hrun⟩ := exists_run_output printed stop closing
  rw [← hrun]
  exact Loop.output_merges_prefixes _ _ events

/-! ### The deadline -/

/-- The line that is in the channel when it is asked for. -/
def ready? (turn : Turn) : Option String :=
  (turn.next.filter (·.1 = 0)).map Prod.snd

/-- The line that an attempt takes. -/
def taken? (deadline : Nat) (turn : Turn) : Option String :=
  (turn.next.filter (·.1 ≤ deadline - turn.now)).map Prod.snd

/-- The attempts that are made: the first that takes nothing is the last one. -/
def attempts (deadline : Nat) : List Turn → List Turn
  | [] => []
  | turn :: rest =>
    turn :: if (taken? deadline turn).isSome then attempts deadline rest else []

/-- The clock shows the deadline or a later time. -/
def isLate (deadline : Nat) (turn : Turn) : Bool :=
  deadline ≤ turn.now

/-- The deadline is kept: no line is taken at it or later, and so there is one attempt at most
that is made then. -/
structure StopsAt (deadline : Nat) (turns : List Turn) : Prop where
  untaken : ∀ turn ∈ attempts deadline turns, isLate deadline turn → taken? deadline turn = none
  once : (attempts deadline turns).countP (isLate deadline) ≤ 1

/-- When there is no time left, what is taken is what is there. -/
theorem taken?_eq_ready? {deadline : Nat} {turn : Turn} (h : isLate deadline turn) :
    taken? deadline turn = ready? turn := by
  simp only [taken?, ready?, Nat.sub_eq_zero_of_le (of_decide_eq_true h), Nat.le_zero_eq]

/-- What is there is taken, however late it is. -/
theorem isSome_taken?_of_ready? {turn : Turn} (deadline : Nat) (h : (ready? turn).isSome) :
    (taken? deadline turn).isSome := by
  obtain ⟨now, _ | ⟨delay, line⟩⟩ := turn
  · cases h
  · obtain rfl : delay = 0 := by simpa [ready?, Option.filter] using h
    simp [taken?, Option.filter]

theorem drain_eq_filterMap_attempts (deadline : Nat) (turns : List Turn) :
    drain deadline turns = (attempts deadline turns).filterMap (taken? deadline) := by
  induction turns with
  | nil => rfl
  | cons turn turns ih =>
      obtain ⟨now, _ | ⟨delay, line⟩⟩ := turn
      · rfl
      · by_cases hdelay : delay ≤ deadline - now
        · simp [drain, attempts, taken?, Option.filter, hdelay, ih]
        · simp [drain, attempts, taken?, Option.filter, hdelay]

/-- An attempt that another one follows has taken a line. -/
theorem pairwise_attempts (deadline : Nat) (turns : List Turn) :
    (attempts deadline turns).Pairwise fun earlier _ => (taken? deadline earlier).isSome := by
  induction turns with
  | nil => exact .nil
  | cons turn turns ih =>
      rw [attempts]
      split
      · exact .cons (fun _ _ => ‹_›) ih
      · exact List.pairwise_singleton _ turn

/-- As long as lines are there, attempts are made, whatever the clock shows. -/
theorem takeWhile_ready?_prefix (deadline : Nat) (turns : List Turn) :
    (turns.takeWhile fun turn => (ready? turn).isSome) <+: attempts deadline turns := by
  induction turns with
  | nil => exact List.nil_prefix
  | cons turn turns ih =>
      rw [List.takeWhile_cons]
      split
      · rename_i hready
        rw [attempts, if_pos (isSome_taken?_of_ready? deadline hready)]
        exact (List.prefix_cons_inj turn).mpr ih
      · exact List.nil_prefix

/-- Of two late attempts the first has taken a line. -/
theorem stopsAt_of_untaken {deadline : Nat} {turns : List Turn}
    (h : ∀ turn ∈ attempts deadline turns, isLate deadline turn → taken? deadline turn = none) :
    StopsAt deadline turns := by
  refine ⟨h, ?_⟩
  have hpairwise := (pairwise_attempts deadline turns).filter (isLate deadline)
  rw [List.countP_eq_length_filter]
  generalize hlate : (attempts deadline turns).filter (isLate deadline) = late at hpairwise
  match late with
  | [] => exact Nat.zero_le 1
  | [_] => exact Nat.le_refl 1
  | first :: second :: _ =>
      obtain ⟨hattempt, hnow⟩ := List.mem_filter.mp (hlate ▸ List.mem_cons_self)
      have htaken := List.rel_of_pairwise_cons hpairwise List.mem_cons_self
      rw [h first hattempt hnow] at htaken
      cases htaken

/-- What is taken after the end is what the attempts take.  The deadline is kept exactly if no
line is there at the first attempt that is late.  Late attempts take what is there, and as long
as lines are there, attempts are made, however many of them are late. -/
theorem stopsAt_iff (deadline : Nat) (turns : List Turn) :
    drain deadline turns = (attempts deadline turns).filterMap (taken? deadline) ∧
      (StopsAt deadline turns ↔
        ∀ first ∈ (attempts deadline turns).find? (isLate deadline), ready? first = none) ∧
      (∀ late ∈ (attempts deadline turns).filter (isLate deadline),
        taken? deadline late = ready? late) ∧
      (turns.takeWhile fun turn => (ready? turn).isSome) <+: attempts deadline turns := by
  refine ⟨drain_eq_filterMap_attempts deadline turns, ⟨fun h first hfirst => ?_, fun h => ?_⟩,
    fun late hlate => taken?_eq_ready? (List.mem_filter.mp hlate).2,
    takeWhile_ready?_prefix deadline turns⟩
  · have hlate : isLate deadline first := List.find?_some hfirst
    rw [← taken?_eq_ready? hlate]
    exact h.untaken first (List.mem_of_find?_eq_some hfirst) hlate
  · refine stopsAt_of_untaken fun turn hturn hlate => ?_
    rw [taken?_eq_ready? hlate]
    obtain ⟨first, hfirst⟩ := Option.isSome_iff_exists.mp
      (List.find?_isSome.mpr ⟨turn, hturn, hlate⟩)
    obtain ⟨hfirstLate, before, after, hsplit, hbefore⟩ :=
      List.find?_eq_some_iff_append.mp hfirst
    have hpairwise := pairwise_attempts deadline turns
    rw [hsplit] at hturn hpairwise
    obtain hturn | hturn := List.mem_append.mp hturn
    · simpa [hlate] using hbefore turn hturn
    obtain rfl | hturn := List.mem_cons.mp hturn
    · exact h _ hfirst
    -- no attempt follows the first late one, as that takes nothing
    · have htaken := List.rel_of_pairwise_cons (List.pairwise_append.mp hpairwise).2.1 hturn
      rw [taken?_eq_ready? hfirstLate, h first hfirst] at htaken
      cases htaken

/-- A program that ends at ten and leaves something behind, which prints two lines just when the
deadline is reached: the second is asked for at the deadline, is there, and is captured. -/
theorem not_stopsAt_lateLines :
    timedLines [⟨2010, .out, [97, 10, 98, 10]⟩] 2010 = [(2010, "a"), (2010, "b")] ∧
      (turns 10 [(2010, "a"), (2010, "b")]).Pairwise (·.now ≤ ·.now) ∧
      ¬ StopsAt (10 + grace) (turns 10 [(2010, "a"), (2010, "b")]) ∧
      output [⟨2010, .out, [97, 10, 98, 10]⟩] 10 2010 = "a\nb\n" := by
  refine ⟨by decide +kernel, by decide, fun h => ?_, by decide +kernel⟩
  have hnone := h.untaken ⟨2010, some (0, "b")⟩ (by decide +kernel) rfl
  cases hnone

end ScriptDeps.Capture
