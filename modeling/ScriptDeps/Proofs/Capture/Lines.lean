/-
What the lines of a stream are.

`IsLines` takes a stream apart by its line feeds, without the accumulator that the reader
carries: a line is everything up to a line feed, less one carriage return in front of it, and
what stands behind the last line feed is a line as it is, if it is anything.  `Reads` is what
a reader makes of them, the texts of the lines up to the first that is no text.  Both leave
no choice.
-/
import ScriptDeps.Capture

namespace ScriptDeps.Lines

/-- A line without one carriage return at its end. -/
def withoutReturn (line : List UInt8) : List UInt8 :=
  if line.getLast? = some carriageReturn then line.dropLast else line

/-- The lines of a stream. -/
inductive IsLines : List UInt8 → List (List UInt8) → Prop
  | nothing : IsLines [] []
  /-- A last line that has no line feed keeps its carriage return. -/
  | last {line : List UInt8} (hne : line ≠ []) (hfeed : lineFeed ∉ line) : IsLines line [line]
  | line {line rest : List UInt8} {lines : List (List UInt8)} (hfeed : lineFeed ∉ line)
      (h : IsLines rest lines) : IsLines (line ++ lineFeed :: rest) (withoutReturn line :: lines)

theorem reverse_dropReturn (line : List UInt8) :
    (dropReturn line).reverse = withoutReturn line.reverse := by
  cases line with
  | nil => rfl
  | cons b line =>
      unfold dropReturn withoutReturn
      by_cases hb : b = carriageReturn <;> simp [hb]

/-- The reader splits a stream into its lines. -/
theorem isLines_split (begun stream : List UInt8) (hfeed : lineFeed ∉ begun) :
    IsLines (begun.reverse ++ stream) (split begun stream) := by
  -- what has begun is the front of the stream, so a line feed comes only out of the rest
  induction stream generalizing begun with
  | nil =>
      rw [List.append_nil, split]
      cases begun with
      | nil => exact .nothing
      | cons b begun => exact .last (by simp) (by rwa [List.mem_reverse])
  | cons b rest ih =>
      rw [split]
      by_cases hb : b = lineFeed
      · rw [if_pos (beq_iff_eq.mpr hb), hb, reverse_dropReturn]
        exact .line (by simpa using hfeed) (ih [] List.not_mem_nil)
      · rw [if_neg (by simpa using hb)]
        have hmore := ih (b :: begun) (by
          rw [List.mem_cons, not_or]
          exact ⟨fun h => hb h.symm, hfeed⟩)
        rwa [List.reverse_cons, List.append_assoc, List.singleton_append] at hmore

/-- The first line feed is in one place. -/
theorem append_lineFeed_inj {front back rest more : List UInt8} (hfront : lineFeed ∉ front)
    (hback : lineFeed ∉ back) (h : front ++ lineFeed :: rest = back ++ lineFeed :: more) :
    front = back ∧ rest = more := by
  induction front generalizing back with
  | nil =>
      cases back with
      | nil => simpa using h
      | cons b back =>
          rw [List.nil_append, List.cons_append, List.cons.injEq] at h
          exact absurd (h.1 ▸ List.mem_cons_self) hback
  | cons a front ih =>
      cases back with
      | nil =>
          rw [List.nil_append, List.cons_append, List.cons.injEq] at h
          exact absurd (h.1 ▸ List.mem_cons_self) hfront
      | cons b back =>
          rw [List.cons_append, List.cons_append, List.cons.injEq] at h
          rw [List.mem_cons, not_or] at hfront hback
          obtain ⟨rfl, hrest⟩ := ih hfront.2 hback.2 h.2
          rw [h.1]
          exact ⟨rfl, hrest⟩

/-- A stream has one list of lines. -/
theorem IsLines.unique {stream : List UInt8} {lines others : List (List UInt8)}
    (h : IsLines stream lines) (ho : IsLines stream others) : lines = others := by
  induction h generalizing others with
  | nothing =>
      generalize hstream : ([] : List UInt8) = stream at ho
      cases ho with
      | nothing => rfl
      | last hne _ => exact absurd hstream.symm hne
      | line _ _ => simp at hstream
  | @last stream hne hfeed =>
      cases ho with
      | nothing => exact absurd rfl hne
      | last _ _ => rfl
      | line _ _ => simp at hfeed
  | @line front rest lines hfeed _ ih =>
      generalize hstream : front ++ lineFeed :: rest = stream at ho
      cases ho with
      | nothing => simp at hstream
      | last _ hother => simp [← hstream] at hother
      | line hother ho =>
          obtain ⟨rfl, rfl⟩ := append_lineFeed_inj hfeed hother hstream
          rw [ih ho]

/-- The texts are the lines of a stream up to the first that is no text. -/
def Reads (stream : List UInt8) (texts : List String) : Prop :=
  ∃ read unread, IsLines stream (read ++ unread) ∧ read.map text? = texts.map some ∧
    ∀ line ∈ unread.head?, text? line = none

theorem exists_texts (lines : List (List UInt8)) :
    ∃ read unread, read ++ unread = lines ∧ read.map text? = (texts lines).map some ∧
      ∀ line ∈ unread.head?, text? line = none := by
  induction lines with
  | nil => exact ⟨[], [], rfl, rfl, by simp⟩
  | cons line lines ih =>
      rw [texts]
      split
      · rename_i text htext
        obtain ⟨read, unread, rfl, hread, hunread⟩ := ih
        exact ⟨line :: read, unread, rfl, by simp [htext, hread], hunread⟩
      · rename_i htext
        exact ⟨[], line :: lines, rfl, rfl, by simpa using htext⟩

/-- What is read from a stream are its lines up to the first that is no text. -/
theorem reads_ofBytes (stream : List UInt8) : Reads stream (ofBytes stream) := by
  obtain ⟨read, unread, hlines, hread, hunread⟩ := exists_texts (split [] stream)
  refine ⟨read, unread, ?_, hread, hunread⟩
  rw [hlines]
  exact isLines_split [] stream List.not_mem_nil

/-- Reading leaves no choice. -/
theorem Reads.unique {stream : List UInt8} {texts others : List String} (h : Reads stream texts)
    (ho : Reads stream others) : texts = others := by
  obtain ⟨read, unread, hlines, hread, hunread⟩ := h
  obtain ⟨read', unread', hlines', hread', hunread'⟩ := ho
  have heq : read ++ unread = read' ++ unread' := hlines.unique hlines'
  clear hlines hlines'
  induction read generalizing read' texts others with
  | nil =>
      cases read' with
      | nil =>
          rw [List.map_nil, eq_comm, List.map_eq_nil_iff] at hread hread'
          rw [hread, hread']
      | cons line read' =>
          cases others with
          | nil => simp at hread'
          | cons text others =>
              have htext := hunread line (by rw [← List.nil_append unread, heq]; rfl)
              simp [htext] at hread'
  | cons line read ih =>
      cases texts with
      | nil => simp at hread
      | cons text texts =>
          cases read' with
          | nil =>
              have htext := hunread' line (by rw [← List.nil_append unread', ← heq]; rfl)
              simp [htext] at hread
          | cons line' read' =>
              cases others with
              | nil => simp at hread'
              | cons text' others =>
                  simp only [List.map_cons, List.cons.injEq, List.cons_append] at hread hread' heq
                  obtain ⟨rfl, heq⟩ := heq
                  rw [hread.1, Option.some.injEq] at hread'
                  rw [hread'.1, ih hread.2 read' hread'.2 heq]

end ScriptDeps.Lines
