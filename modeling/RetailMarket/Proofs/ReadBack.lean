import Mathlib
import RetailMarket.Simulation.Export

/-!
# Reading exports back

Whatever a record holds, its text reads back as that record: a field with a separator in it is
quoted, and the reader is behind the closing quote exactly when the writer is. So the text of any
transactions reads back as the header and one record for each of them, from which every exact
column of the transaction is recovered.
-/

namespace RetailMarket.Csv

variable {place : Place} {field : List Char} {record : List (List Char)}

/-! ## Separators end a field -/

theorem readFrom?_comma (unquoted : place ≠ .quoted) (rest : List Char) :
    readFrom? place field record (',' :: rest) =
      readFrom? .field [] (field.reverse :: record) rest := by
  cases place <;> simp_all [readFrom?]

theorem readFrom?_lineFeed (unquoted : place ≠ .quoted) (rest : List Char) :
    readFrom? place field record ('\n' :: rest) =
      (readFrom? .record [] [] rest).map ((field.reverse :: record).reverse :: ·) := by
  cases place <;> simp_all [readFrom?]

/-! ## The text of one field -/

theorem readFrom?_plain {c : Char} (plain : isSpecial c = false) (unquoted : place ≠ .quoted)
    (unclosed : place ≠ .closed) (rest : List Char) :
    readFrom? place field record (c :: rest) = readFrom? .bare (c :: field) record rest := by
  simp only [isSpecial, Bool.or_eq_false_iff, beq_eq_false_iff_ne] at plain
  obtain ⟨⟨⟨notComma, notQuote⟩, notFeed⟩, notReturn⟩ := plain
  cases place <;> simp_all [readFrom?]

theorem readFrom?_bare {text : List Char} (plain : text.any isSpecial = false)
    (rest : List Char) :
    readFrom? .bare field record (text ++ rest) =
      readFrom? .bare (text.reverse ++ field) record rest := by
  induction text generalizing field with
  | nil => rfl
  | cons c text ih =>
    rw [List.any_cons, Bool.or_eq_false_iff] at plain
    rw [List.cons_append, readFrom?_plain plain.1 (by decide) (by decide), ih plain.2]
    simp

theorem readFrom?_doubleQuotes (text rest : List Char) :
    readFrom? .quoted field record (doubleQuotes text ++ '"' :: rest) =
      readFrom? .closed (text.reverse ++ field) record rest := by
  induction text generalizing field with
  | nil => simp [doubleQuotes, readFrom?]
  | cons c text ih =>
    have taken : readFrom? .quoted field record (doubleQuotes (c :: text) ++ '"' :: rest) =
        readFrom? .quoted (c :: field) record (doubleQuotes text ++ '"' :: rest) := by
      -- the first of two quotes leaves the field, and the second takes the reader back into it
      by_cases isQuote : c = '"'
      · subst isQuote
        simp [doubleQuotes, readFrom?]
      · simp [doubleQuotes, readFrom?, isQuote]
    rw [taken, ih]
    simp

theorem readFrom?_quote (start : place = .record ∨ place = .field) (text rest : List Char) :
    readFrom? place [] record (quote text ++ rest) =
      readFrom? .closed text.reverse record rest := by
  have opened : readFrom? place [] record (quote text ++ rest) =
      readFrom? .quoted [] record (doubleQuotes text ++ '"' :: rest) := by
    obtain rfl | rfl := start <;> simp [quote, readFrom?]
  rw [opened, readFrom?_doubleQuotes, List.append_nil]

/-- A reader that starts a field is behind its text, with all of it, and outside quotes. -/
theorem readFrom?_writeField (start : place = .record ∨ place = .field)
    (record : List (List Char)) (text rest : List Char) :
    ∃ behind : Place, behind ≠ .quoted ∧
      readFrom? place [] record (writeField text ++ rest) =
        readFrom? behind text.reverse record rest := by
  unfold writeField
  cases special : text.any isSpecial with
  | true => exact ⟨.closed, by decide, by rw [if_pos rfl, readFrom?_quote start]⟩
  | false =>
    rw [if_neg Bool.false_ne_true]
    cases text with
    | nil => exact ⟨place, by obtain rfl | rfl := start <;> decide, rfl⟩
    | cons c text =>
      rw [List.any_cons, Bool.or_eq_false_iff] at special
      refine ⟨.bare, by decide, ?_⟩
      rw [List.cons_append,
        readFrom?_plain special.1 (by obtain rfl | rfl := start <;> decide)
          (by obtain rfl | rfl := start <;> decide),
        readFrom?_bare special.2, List.reverse_cons]

/-! ## Records -/

theorem readFrom?_writeFields (start : place = .record ∨ place = .field) (first : List Char)
    (others : List (List Char)) (rest : List Char) :
    readFrom? place [] record (writeFields (first :: others) ++ '\n' :: rest) =
      (readFrom? .record [] [] rest).map ((record.reverse ++ first :: others) :: ·) := by
  induction others generalizing place record first with
  | nil =>
    obtain ⟨behind, unquoted, read⟩ :=
      readFrom?_writeField start record first ('\n' :: rest)
    rw [writeFields, read, readFrom?_lineFeed unquoted, List.reverse_reverse, List.reverse_cons]
  | cons second others ih =>
    obtain ⟨behind, unquoted, read⟩ := readFrom?_writeField start record first
      (',' :: (writeFields (second :: others) ++ '\n' :: rest))
    rw [writeFields, List.append_assoc, List.cons_append, read, readFrom?_comma unquoted,
      ih (.inr rfl), List.reverse_reverse, List.reverse_cons, List.append_assoc,
      List.singleton_append]
    exact List.cons_ne_nil second others

theorem readFrom?_writeRecord {fields : List (List Char)} (filled : fields ≠ [])
    (rest : List Char) :
    readFrom? .record [] [] (writeRecord fields ++ rest) =
      (readFrom? .record [] [] rest).map (fields :: ·) := by
  unfold writeRecord
  split
  case isTrue lone =>
    rw [List.append_assoc, readFrom?_quote (.inl rfl), List.singleton_append,
      readFrom?_lineFeed (by decide), lone]
    rfl
  case isFalse =>
    obtain ⟨first, others, rfl⟩ := List.exists_cons_of_ne_nil filled
    rw [List.append_assoc, List.singleton_append, readFrom?_writeFields (.inl rfl)]
    rfl

theorem readFrom?_flatMap {records : List (List (List Char))}
    (filled : ∀ fields ∈ records, fields ≠ []) :
    readFrom? .record [] [] (records.flatMap writeRecord) = some records := by
  induction records with
  | nil => rfl
  | cons fields records ih =>
    rw [List.forall_mem_cons] at filled
    rw [List.flatMap_cons, readFrom?_writeRecord filled.1, ih filled.2]
    rfl

theorem read?_write {records : List (List String)} (filled : ∀ fields ∈ records, fields ≠ []) :
    read? (write records) = some records := by
  have texts : (write records).toList =
      (records.map fun fields => fields.map String.toList).flatMap writeRecord := by
    rw [write, String.toList_ofList, List.flatMap_map]
  have kept (fields : List String) : (fields.map String.toList).map String.ofList = fields := by
    simp [Function.comp_def]
  rw [read?, texts, readFrom?_flatMap]
  · simp [Function.comp_def]
  · intro fields listed
    obtain ⟨source, member, rfl⟩ := List.mem_map.mp listed
    simpa using filled source member

end RetailMarket.Csv

namespace RetailMarket.Export

/-! ## Transactions -/

/-- The exact columns of a transaction. The energy and the charge are written to four places. -/
structure Entry where
  timeslot : Nat
  kind : TransactionKind
  tariff : TariffId
  broker : String
  customer : CustomerId
  count : Nat
  deriving DecidableEq, Repr

def entry (transaction : Transaction Float) : Entry :=
  ⟨transaction.timeslot, transaction.kind, transaction.tariff, transaction.broker,
    transaction.customer, transaction.count⟩

def entryOf? : List String → Option Entry
  | [timeslot, kind, tariff, broker, customer, count, _kwh, _charge] => do
    return ⟨← timeslot.toNat?, ← TransactionKind.ofLabel? kind, ⟨← tariff.toNat?⟩, broker,
      ⟨← customer.toNat?⟩, ← count.toNat?⟩
  | _ => none

def readTransactions? (text : String) : Option (List Entry) := do
  match ← Csv.read? text with
  | header :: records => if header = transactionHeader then records.mapM entryOf? else none
  | [] => none

@[simp]
theorem length_transactionRecord (transaction : Transaction Float) :
    (transactionRecord transaction).length = transactionHeader.length := rfl

@[simp]
theorem entryOf?_transactionRecord (transaction : Transaction Float) :
    entryOf? (transactionRecord transaction) = some (entry transaction) := by
  simp [entryOf?, transactionRecord, entry, Nat.toNat?_repr]

theorem read?_transactions (posted : List (Transaction Float)) :
    Csv.read? (transactions posted) =
      some (transactionHeader :: posted.map transactionRecord) := by
  refine Csv.read?_write fun fields listed => ?_
  have wide : fields.length = transactionHeader.length := by
    obtain rfl | row := List.mem_cons.mp listed
    · rfl
    · obtain ⟨transaction, -, rfl⟩ := List.mem_map.mp row
      exact length_transactionRecord transaction
  exact List.ne_nil_of_length_pos (wide ▸ by decide)

theorem mapM_entryOf? (posted : List (Transaction Float)) :
    (posted.map transactionRecord).mapM entryOf? = some (posted.map entry) := by
  induction posted with
  | nil => rfl
  | cons transaction posted ih =>
    rw [List.map_cons, List.mapM_cons, entryOf?_transactionRecord, ih]
    rfl

theorem readTransactions?_transactions (posted : List (Transaction Float)) :
    readTransactions? (transactions posted) = some (posted.map entry) := by
  simp only [readTransactions?, read?_transactions, Option.bind_eq_bind, Option.bind_some,
    ↓reduceIte]
  exact mapM_entryOf? posted

/-- Every transaction is read back, in order, from a record of its own with as many fields as the
header has. -/
theorem transactions_read_back (posted : List (Transaction Float)) :
    ∃ records, Csv.read? (transactions posted) = some (transactionHeader :: records) ∧
      records.length = posted.length ∧
      (∀ fields ∈ transactionHeader :: records, fields.length = 8) ∧
      records.map entryOf? = posted.map fun transaction => some (entry transaction) := by
  refine ⟨posted.map transactionRecord, read?_transactions posted, List.length_map _, ?_, ?_⟩
  · intro fields listed
    obtain rfl | row := List.mem_cons.mp listed
    · rfl
    · obtain ⟨transaction, -, rfl⟩ := List.mem_map.mp row
      rfl
  · rw [List.map_map]
    exact List.map_congr_left fun transaction _ => entryOf?_transactionRecord transaction

theorem entries_eq_of_transactions_eq {first second : List (Transaction Float)}
    (same : transactions first = transactions second) : first.map entry = second.map entry := by
  have read := readTransactions?_transactions first
  rw [same, readTransactions?_transactions] at read
  exact (Option.some.inj read).symm

end RetailMarket.Export
