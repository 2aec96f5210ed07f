import RetrievalKit.Chat.Basic

/-!
# Sums of chunks

* `Chunk.Grouping` — a sum of chunks with all its brackets;
* `Chunk.Grouping.value_eq` — the brackets do not matter.
-/

namespace RetrievalKit.Chunk

theorem foldl_append (a : Chunk) (chunks : List Chunk) :
    chunks.foldl (· ++ ·) a = a ++ sum chunks := by
  induction chunks generalizing a with
  | nil => exact (append_empty a).symm
  | cons b chunks ih =>
    rw [sum, List.foldl_cons, List.foldl_cons, ih, ih (empty ++ b), empty_append, append_assoc]

theorem sum_cons (a : Chunk) (chunks : List Chunk) : sum (a :: chunks) = a ++ sum chunks := by
  rw [sum, List.foldl_cons, foldl_append, empty_append]

theorem sum_append (first second : List Chunk) :
    sum (first ++ second) = sum first ++ sum second := by
  rw [sum, List.foldl_append, foldl_append]
  rfl

/-- A sum of chunks with all its brackets. -/
inductive Grouping where
  | one (chunk : Chunk)
  | join (first second : Grouping)

namespace Grouping

/-- The chunks from left to right. -/
def chunks : Grouping → List Chunk
  | one chunk => [chunk]
  | join first second => first.chunks ++ second.chunks

/-- The chunk that the sum makes. -/
def value : Grouping → Chunk
  | one chunk => chunk
  | join first second => first.value ++ second.value

/-- **The brackets of a sum do not matter.** -/
theorem value_eq (g : Grouping) : g.value = sum g.chunks := by
  induction g with
  | one chunk => exact (empty_append chunk).symm
  | join first second ihFirst ihSecond =>
    rw [value, chunks, sum_append, ihFirst, ihSecond]

end Grouping

end RetrievalKit.Chunk
