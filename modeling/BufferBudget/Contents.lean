/-!
# Buffer contents

The bytes of a buffer, and what allocators and their callers do to them.  Fresh
bytes carry a marker that starts over at the first of them, so that a reader
who trusts memory before writing to it is found out.
-/

namespace BufferBudget

/-- The bytes of a buffer. -/
abbrev Contents : Type :=
  Array UInt8

namespace Contents

/--
The marker at a position after the first fresh byte: `N`, `E`, `W`,
and over again.
-/
def marker (index : Nat) : UInt8 :=
  match index % 3 with
  | 0 => 78
  | 1 => 69
  | _ => 87

/-- Bytes that nobody has written to. -/
def fresh (size : Nat) : Contents :=
  Array.ofFn fun index : Fin size => marker index

@[simp]
theorem size_fresh (size : Nat) : (fresh size).size = size := by
  simp [fresh]

/-- The contents grown to a larger size by fresh bytes. -/
def extend (contents : Contents) (size : Nat) : Contents :=
  contents ++ fresh (size - contents.size)

theorem size_extend
    (contents : Contents)
    {size : Nat}
    (larger : contents.size ≤ size) :
    (contents.extend size).size = size := by
  simp only [extend, Array.size_append, size_fresh]
  omega

/-- The contents cut to a smaller size. -/
def truncate (contents : Contents) (size : Nat) : Contents :=
  contents.take size

theorem size_truncate
    (contents : Contents)
    {size : Nat}
    (smaller : size ≤ contents.size) :
    (contents.truncate size).size = size := by
  simp only [truncate, Array.take_eq_extract, Array.size_extract]
  omega

theorem getElem?_truncate_of_lt
    (contents : Contents)
    {size index : Nat}
    (kept : index < size) :
    (contents.truncate size)[index]? = contents[index]? := by
  rw [truncate, Array.take_eq_extract, Array.getElem?_extract, Nat.zero_add]
  split
  · rfl
  · exact (Array.getElem?_eq_none (by omega)).symm

@[simp]
theorem truncate_size (contents : Contents) :
    contents.truncate contents.size = contents := by
  rw [truncate, Array.take_eq_extract, Array.extract_size]

/-- The contents with zeros from a position on. -/
def zeroFrom (contents : Contents) (offset : Nat) : Contents :=
  contents.take offset ++ Array.replicate (contents.size - offset) 0

@[simp]
theorem size_zeroFrom (contents : Contents) (offset : Nat) :
    (contents.zeroFrom offset).size = contents.size := by
  simp only [zeroFrom, Array.size_append, Array.take_eq_extract,
    Array.size_extract, Array.size_replicate]
  omega

/-- The same byte everywhere. -/
def fill (contents : Contents) (byte : UInt8) : Contents :=
  Array.replicate contents.size byte

@[simp]
theorem size_fill (contents : Contents) (byte : UInt8) :
    (contents.fill byte).size = contents.size := by
  simp [fill]

/-- Writes bytes from a position on; what does not fit is left out. -/
def write (contents : Contents) (offset : Nat) (bytes : Array UInt8) :
    Contents :=
  let start := min offset contents.size
  let part := bytes.take (contents.size - start)
  contents.take start ++ part ++ contents.drop (start + part.size)

@[simp]
theorem size_write (contents : Contents) (offset : Nat) (bytes : Array UInt8) :
    (contents.write offset bytes).size = contents.size := by
  simp only [write, Array.size_append, Array.take_eq_extract,
    Array.drop_eq_extract, Array.size_extract]
  omega

end Contents

end BufferBudget
