/-!
# The byte order of texts

Texts are ordered by their UTF-8 bytes, the first difference deciding.

* `utf8Bytes` — the bytes of a text, which determine it;
* `byteOrder` — the comparison of two texts;
* `byteOrder_eq_lt` — a text stands before another when its bytes do.
-/

namespace Reckoner

/-- The UTF-8 bytes of a text. -/
def utf8Bytes (s : String) : List UInt8 :=
  s.toByteArray.data.toList

/-- The order of the UTF-8 bytes. -/
def byteOrder : String → String → Ordering :=
  compareOn utf8Bytes

/-- Texts with the same bytes are the same. -/
theorem utf8Bytes_inj {a b : String} (h : utf8Bytes a = utf8Bytes b) : a = b :=
  String.toByteArray_inj.1 (ByteArray.ext (Array.toList_inj.1 h))

instance : Std.TransCmp byteOrder :=
  inferInstanceAs (Std.TransCmp (compareOn utf8Bytes))

instance : Std.LawfulEqCmp byteOrder where
  eq_of_compare h := utf8Bytes_inj (Std.LawfulEqOrd.eq_of_compare h)

/-- Lists of bytes compare by the first byte that differs. -/
theorem compare_bytes_eq_lt {xs ys : List UInt8} : compare xs ys = .lt ↔ xs < ys := by
  induction xs generalizing ys with
  | nil => cases ys <;> simp
  | cons x xs ih =>
      cases ys with
      | nil => simp
      | cons y ys =>
          rw [List.compare_cons_cons, Ordering.then_eq_lt, ih, List.cons_lt_cons_iff,
            Std.compare_eq_lt, Std.LawfulEqOrd.compare_eq_iff_eq]

/-- A text stands before another when its bytes do. -/
theorem byteOrder_eq_lt {a b : String} : byteOrder a b = .lt ↔ utf8Bytes a < utf8Bytes b :=
  compare_bytes_eq_lt

end Reckoner
