import Rpackit.Library.Text
import Rpackit.Windows.Environment

/-! # Tables of listeners

The system fills a storage of words with a count and that many rows. The count comes from
outside, so the reader checks that the rows fit before it reads any of them.
-/

namespace Rpackit.Windows

open Text

/-! ## Storage -/

/-- The bytes of an integer in memory. -/
def littleEndian (width value : Nat) : Bytes :=
  (List.range width).map fun index => (value >>> (8 * index)).toUInt8

def fromLittleEndian (bytes : Bytes) : Nat :=
  bytes.foldr (fun byte rest => byte.toNat + 256 * rest) 0

theorem length_littleEndian (width value : Nat) : (littleEndian width value).length = width := by
  simp [littleEndian]

theorem littleEndian_succ (width value : Nat) :
    littleEndian (width + 1) value = value.toUInt8 :: littleEndian width (value / 256) := by
  have hbyte : ∀ index, value >>> (8 * (index + 1)) = (value / 256) >>> (8 * index) := by
    intro index
    rw [Nat.shiftRight_eq_div_pow, Nat.shiftRight_eq_div_pow, Nat.div_div_eq_div_mul,
      Nat.mul_succ, Nat.pow_add, Nat.mul_comm]
  simp [littleEndian, List.range_succ_eq_map, hbyte]

/-- The bytes of an integer that they can hold are read back. -/
theorem fromLittleEndian_littleEndian {width value : Nat} (hvalue : value < 256 ^ width) :
    fromLittleEndian (littleEndian width value) = value := by
  induction width generalizing value with
  | zero =>
      obtain rfl := Nat.lt_one_iff.mp hvalue
      rfl
  | succ width ih =>
      have hrest : value / 256 < 256 ^ width := by
        rw [Nat.div_lt_iff_lt_mul (by decide), ← Nat.pow_succ]
        exact hvalue
      have hlow : value.toUInt8.toNat = value % 256 := by simp
      rw [littleEndian_succ, fromLittleEndian, List.foldr_cons, ← fromLittleEndian, ih hrest, hlow]
      exact Nat.mod_add_div value 256

def sizeOfUsize : Nat := 8

def storageBytes (storage : List UInt64) : Bytes :=
  storage.flatMap fun word => littleEndian sizeOfUsize word.toNat

/-- `read_unaligned` of a value of the given size; there is none for an access out of range. -/
def readUnaligned (bytes : Bytes) (offset size : Nat) : Option Bytes :=
  if offset + size ≤ bytes.length then some ((bytes.drop offset).take size) else none

/-! ## Rows -/

def checkedMul (left right : Nat) : Option Nat :=
  if left * right ≤ usizeMax then some (left * right) else none

/-- The offset of a row; the addition and the product wrap. -/
def rowOffset (rowsOffset index size : Nat) : Nat :=
  (rowsOffset + index * size % (usizeMax + 1)) % (usizeMax + 1)

/-- The bytes of `count` rows of the given size, if they fit. -/
def readRows (bytes : Bytes) (rowsOffset size count : Nat) :
    Option (Except LaunchError (List Bytes)) :=
  match (checkedMul count size).bind (checkedAdd rowsOffset) with
  | none => some (.error .malformedTcpTable)
  | some last =>
      if bytes.length < last then some (.error .malformedTcpTable)
      else do
        let rows ← (List.range count).mapM fun index =>
          readUnaligned bytes (rowOffset rowsOffset index size) size
        return .ok rows

/-- The rows of a table, each as its bytes; `size` is that of a row. -/
def readTableRows (size : Nat) (storage : List UInt64) (rowsOffset : Nat) :
    Option (Except LaunchError (List Bytes)) :=
  let bytes := storageBytes storage
  if bytes.length < 4 ∨ size = 0 ∨ bytes.length < rowsOffset then
    some (.error .malformedTcpTable)
  else do
    let header ← readUnaligned bytes 0 4
    readRows bytes rowsOffset size (fromLittleEndian header)

/-- The count that a table declares. -/
def declaredCount (storage : List UInt64) : Nat :=
  fromLittleEndian ((storageBytes storage).take 4)

theorem length_storageBytes (storage : List UInt64) :
    (storageBytes storage).length = storage.length * sizeOfUsize := by
  induction storage with
  | nil => rfl
  | cons word rest ih =>
      have hlength : (storageBytes (word :: rest)).length =
          sizeOfUsize + (storageBytes rest).length := by
        simp [storageBytes, littleEndian]
      rw [hlength, ih, List.length_cons, Nat.succ_mul, Nat.add_comm]

theorem readUnaligned_eq_some {bytes : Bytes} {offset size : Nat}
    (hfits : offset + size ≤ bytes.length) :
    readUnaligned bytes offset size = some ((bytes.drop offset).take size) := if_pos hfits

/-- A row of a range that fits is where it should be, without a wrap. -/
theorem rowOffset_eq {rowsOffset index size count : Nat} (hindex : index < count)
    (hend : rowsOffset + count * size ≤ usizeMax) :
    rowOffset rowsOffset index size = rowsOffset + index * size := by
  have hrows : index * size ≤ count * size := Nat.mul_le_mul_right size (Nat.le_of_lt hindex)
  rw [rowOffset, Nat.mod_eq_of_lt (by omega : index * size < usizeMax + 1),
    Nat.mod_eq_of_lt (by omega)]

theorem mapM_eq_some {α β : Type} {f : α → Option β} {g : α → β} {inputs : List α}
    (hf : ∀ input ∈ inputs, f input = some (g input)) :
    inputs.mapM f = some (inputs.map g) := by
  induction inputs with
  | nil => rfl
  | cons input rest ih =>
      obtain ⟨hinput, hrest⟩ := List.forall_mem_cons.mp hf
      rw [List.mapM_cons, hinput, ih hrest]
      rfl

/-- The rows that fit are read, and nothing else is. -/
theorem readRows_eq (bytes : Bytes) (rowsOffset size count : Nat) :
    readRows bytes rowsOffset size count =
      some (if rowsOffset + count * size ≤ usizeMax ∧
          rowsOffset + count * size ≤ bytes.length then
        .ok ((List.range count).map fun index =>
          (bytes.drop (rowsOffset + index * size)).take size)
      else .error .malformedTcpTable) := by
  have hchecked : (checkedMul count size).bind (checkedAdd rowsOffset) =
      if rowsOffset + count * size ≤ usizeMax then some (rowsOffset + count * size) else none := by
    unfold checkedMul
    by_cases hproduct : count * size ≤ usizeMax
    · rw [if_pos hproduct]
      rfl
    · rw [if_neg hproduct, if_neg (by omega)]
      rfl
  rw [readRows, hchecked]
  by_cases hend : rowsOffset + count * size ≤ usizeMax
  · rw [if_pos hend]
    by_cases hfits : rowsOffset + count * size ≤ bytes.length
    · rw [if_pos ⟨hend, hfits⟩]
      have hrow : ∀ index ∈ List.range count,
          readUnaligned bytes (rowOffset rowsOffset index size) size =
            some ((bytes.drop (rowsOffset + index * size)).take size) := by
        intro index hindex
        have hlt := List.mem_range.mp hindex
        have hlast : index * size + size ≤ count * size := by
          rw [← Nat.succ_mul]
          exact Nat.mul_le_mul_right size hlt
        rw [rowOffset_eq hlt hend]
        exact readUnaligned_eq_some (by omega)
      simp only [if_neg (Nat.not_lt.mpr hfits), mapM_eq_some hrow]
      rfl
    · rw [if_neg fun hboth => hfits hboth.2]
      simp only [if_pos (Nat.lt_of_not_le hfits)]
  · rw [if_neg hend, if_neg fun hboth => hend hboth.1]

/-- No access is out of range: the reader gives the declared rows or an error. -/
theorem readTableRows_eq (size : Nat) (storage : List UInt64) (rowsOffset : Nat) :
    readTableRows size storage rowsOffset =
      some (if 4 ≤ (storageBytes storage).length ∧ size ≠ 0 ∧
          rowsOffset + declaredCount storage * size ≤ usizeMax ∧
          rowsOffset + declaredCount storage * size ≤ (storageBytes storage).length then
        .ok ((List.range (declaredCount storage)).map fun index =>
          ((storageBytes storage).drop (rowsOffset + index * size)).take size)
      else .error .malformedTcpTable) := by
  unfold readTableRows
  by_cases hmalformed : (storageBytes storage).length < 4 ∨ size = 0 ∨
      (storageBytes storage).length < rowsOffset
  · rw [if_pos hmalformed, if_neg]
    intro hall
    omega
  · have hheader : 4 ≤ (storageBytes storage).length := by omega
    have hsize : size ≠ 0 := by omega
    rw [if_neg hmalformed, readUnaligned_eq_some (by omega)]
    change readRows _ rowsOffset size (declaredCount storage) = _
    rw [readRows_eq]
    simp only [hheader, hsize, ne_eq, not_false_eq_true, true_and]

/-- Every row that is read lies within the storage. -/
theorem readTableRows_within (size : Nat) (storage : List UInt64) (rowsOffset : Nat) :
    readTableRows size storage rowsOffset = some (.error .malformedTcpTable) ∨
      ∃ rows, readTableRows size storage rowsOffset = some (.ok rows) ∧
        rows.length = declaredCount storage ∧
        ∀ index (hindex : index < rows.length),
          rowsOffset + index * size + size ≤ storage.length * sizeOfUsize ∧
            rows[index] = ((storageBytes storage).drop (rowsOffset + index * size)).take size := by
  rw [readTableRows_eq]
  split
  next hfits =>
    obtain ⟨-, -, -, hend⟩ := hfits
    rw [length_storageBytes] at hend
    refine .inr ⟨_, rfl, by simp, ?_⟩
    intro index hindex
    have hlt : index < declaredCount storage := by simpa using hindex
    have hlast : index * size + size ≤ declaredCount storage * size := by
      rw [← Nat.succ_mul]
      exact Nat.mul_le_mul_right size hlt
    refine ⟨by omega, ?_⟩
    rw [List.getElem_map, List.getElem_range]
  next => exact .inl rfl

/-! ## Rows of listeners -/

/-- A row of the IPv4 table, as far as the verdict looks at it. -/
structure ListenerRow where
  port : UInt16
  address : List UInt8
  owningPid : UInt32
  listening : Bool
  deriving DecidableEq, Repr

/-- What is used of `MIB_TCPROW_OWNER_PID`. -/
structure MibTcpRowOwnerPid where
  dwState : UInt32
  dwLocalAddr : UInt32
  dwLocalPort : UInt32
  dwOwningPid : UInt32
  deriving DecidableEq, Repr

def readU32 (row : Bytes) (offset : Nat) : UInt32 :=
  (fromLittleEndian ((row.drop offset).take 4)).toUInt32

def MibTcpRowOwnerPid.ofBytes (row : Bytes) : MibTcpRowOwnerPid :=
  ⟨readU32 row 0, readU32 row 4, readU32 row 8, readU32 row 20⟩

def networkPort (value : UInt32) : UInt16 :=
  let bytes := littleEndian 4 value.toNat
  (bytes.getD 0 0).toUInt16 * 256 + (bytes.getD 1 0).toUInt16

def mibTcpStateListen : UInt32 := 2

def MibTcpRowOwnerPid.listener (row : MibTcpRowOwnerPid) : ListenerRow where
  port := networkPort row.dwLocalPort
  address := littleEndian 4 row.dwLocalAddr.toNat
  owningPid := row.dwOwningPid
  listening := row.dwState == mibTcpStateListen

/-- The rows of a table, decoded one by one. -/
def decodeRows {α : Type} (size rowsOffset : Nat) (decode : Bytes → α) (storage : List UInt64) :
    Option (Except LaunchError (List α)) := do
  let rows ← readTableRows size storage rowsOffset
  return rows.map fun rows => rows.map decode

/-- No table takes a reader out of its storage. -/
theorem isSome_decodeRows {α : Type} (size rowsOffset : Nat) (decode : Bytes → α)
    (storage : List UInt64) : (decodeRows size rowsOffset decode storage).isSome = true := by
  rcases readTableRows_within size storage rowsOffset with hmalformed | ⟨rows, hread, -⟩
  · rw [decodeRows, hmalformed]
    rfl
  · rw [decodeRows, hread]
    rfl

/-- The rows of a `MIB_TCPTABLE_OWNER_PID`, which begin behind the count. -/
def ipv4TableRows (storage : List UInt64) : Except LaunchError (List ListenerRow) :=
  (decodeRows 24 4 (fun row => (MibTcpRowOwnerPid.ofBytes row).listener) storage).get
    (isSome_decodeRows 24 4 _ storage)

/-- The ports of the rows of a `MIB_TCP6TABLE_OWNER_PID`. -/
def ipv6TablePorts (storage : List UInt64) : Except LaunchError (List UInt16) :=
  (decodeRows 56 4 (fun row => networkPort (readU32 row 20)) storage).get
    (isSome_decodeRows 56 4 _ storage)

/-- The address families of the two tables. -/
inductive AddressFamily where
  | inet
  | inet6
  deriving DecidableEq, Repr

/-! ## Counts -/

def localhost : List UInt8 := [127, 0, 0, 1]

/-- Rows for the port, and those that are the loopback listener of the process. -/
def rowsOnPort (ipv4 : List ListenerRow) (port : UInt16) : Nat :=
  ipv4.countP fun row => row.port == port

def exactRows (ipv4 : List ListenerRow) (port : UInt16) (pid : UInt32) : Nat :=
  ipv4.countP fun row =>
    row.port == port && row.address == localhost && row.owningPid == pid && row.listening

end Rpackit.Windows
