import DBMonitor.Model.Fetch

namespace DBMonitor.Fetch

open Memory

variable {Decimal Date : Type} (F : Foundation Decimal Date)

-- What the library hands over for a column: numbers have their type's size.
def fits (field : MysqlField) (bytes : List UInt8) : Bool :=
  match field.type with
  | .longlong | .double => decide (bytes.length = 8)
  | .long | .float => decide (bytes.length = 4)
  | .tiny => decide (bytes.length = 1)
  | .datetime | .date => decide (bytes.length = sizeofMysqlTime)
  | .string | .varString | .newdecimal | .timestamp => decide (bytes.length ≤ field.length)
  | _ => true

def Conforms (field : MysqlField) (cell : Cell) : Prop := ∀ bytes ∈ cell, fits field bytes = true

-- FLOAT and DOUBLE columns are bound by their display width.
def wide (field : MysqlField) : Bool :=
  match field.type with
  | .float => decide (4 ≤ field.length)
  | .double => decide (8 ≤ field.length)
  | _ => true

def objectOfCell (fieldType : FieldType) : Cell → Assignment Decimal Date
  | none => .value .null
  | some bytes => objectOf F fieldType bytes

def objectsOfRow : List (String × FieldType) → List Cell → Dictionary Decimal Date →
    Except FetchFailure (Dictionary Decimal Date)
  | (key, fieldType) :: columns, cell :: cells, dict => do
    let dict ← assign F key dict (objectOfCell F fieldType cell)
    objectsOfRow columns cells dict
  | _, _, dict => pure dict

def objectsOfReply (connection : HostRef) (columns : List (String × FieldType)) :
    Except MysqlError (List Cell) → Except FetchFailure (Dictionary Decimal Date)
  | .error error => throw (.raised (fetchError connection "perform mysql_stmt_fetch()" error))
  | .ok cells => objectsOfRow F columns cells (fun _ => none)

theorem ok_bind {α β ε : Type} (a : α) (f : α → Except ε β) : (Except.ok a >>= f) = f a := rfl

theorem mapM_ok {α β ε : Type} {f : α → Except ε β} {as : List α} {bs : List β}
    (h : as.mapM f = .ok bs) : List.Forall₂ (fun a b => f a = .ok b) as bs := by
  induction as generalizing bs with
  | nil =>
    obtain rfl := Except.ok.inj h
    exact .nil
  | cons a as ih =>
    rw [List.mapM_cons] at h
    cases hhead : f a with
    | error e => simp [hhead, Bind.bind, Except.bind] at h
    | ok b =>
      cases htail : as.mapM f with
      | error e => simp [hhead, htail, Bind.bind, Except.bind] at h
      | ok bs' =>
        rw [hhead, htail] at h
        obtain rfl := Except.ok.inj h
        exact .cons hhead (ih htail)

structure Shaped (field : MysqlField) (binding : MysqlBind) : Prop where
  bound : ∃ fresh, bindField field = .ok fresh ∧ binding.bufferType = fresh.bufferType ∧
    binding.buffer.length = fresh.buffer.length

section Library

-- Of these types the library copies as much as buffer_length allows and flags the rest; a value
-- of a fixed length is written whole.
def variableLength : FieldType → Bool
  | .string | .varString | .blob => true
  | _ => false

def Roomy (cell : Cell) (binding : MysqlBind) : Prop :=
  ∀ bytes ∈ cell, variableLength binding.bufferType = true ∨ bytes.length ≤ binding.buffer.length

structure Stored (cell : Cell) (binding binding' : MysqlBind) : Prop where
  bufferType : binding'.bufferType = binding.bufferType
  size : binding'.buffer.length = binding.buffer.length
  isNull : binding'.isNull = cell.isNone
  length : ∀ bytes ∈ cell, binding'.length = bytes.length
  copied : ∀ bytes ∈ cell, bytes.length ≤ binding.buffer.length →
    binding'.buffer.take bytes.length = bytes
  error : ∀ bytes ∈ cell, binding.buffer.length < bytes.length → binding'.error = true

inductive StoredRow : List Cell → List MysqlBind → List MysqlBind → Prop where
  | nil : StoredRow [] [] []
  | cons {cell : Cell} {binding binding' : MysqlBind} {cells : List Cell}
    {bindings bindings' : List MysqlBind} (hcell : Stored cell binding binding')
    (hcells : StoredRow cells bindings bindings') :
    StoredRow (cell :: cells) (binding :: bindings) (binding' :: bindings')

-- What the comment on MYSQL_BIND in mysql_64.h says of length, is_null, error and buffer_length.
structure Documented (library : MysqlLibrary) : Prop where
  fetch : ∀ cells bindings, List.Forall₂ Roomy cells bindings → ∃ truncated bindings',
    library.mysqlStmtFetch cells bindings = .ok (truncated, bindings') ∧
      StoredRow cells bindings bindings' ∧
      ∀ binding ∈ bindings', binding.error = true → truncated = true
  overrun : ∀ cells bindings, cells.length = bindings.length → ¬List.Forall₂ Roomy cells bindings →
    library.mysqlStmtFetch cells bindings = .error .outOfBounds
  fetchColumn : ∀ cell binding, Roomy cell binding → ∃ binding',
    library.mysqlStmtFetchColumn cell binding = .ok binding' ∧ Stored cell binding binding'

end Library

section Column
variable {library : MysqlLibrary} {field : MysqlField} {binding binding' : MysqlBind}
  {bytes : List UInt8} {truncated : Bool}

theorem Stored.readBytes (h : Stored (some bytes) binding binding')
    (hle : bytes.length ≤ binding.buffer.length) :
    Fetch.readBytes bytes.length binding' = .ok bytes := by
  have hroom : bytes.length ≤ binding'.buffer.length := h.size ▸ hle
  simp only [Fetch.readBytes, read_of_le hroom, h.copied bytes rfl hle]

theorem readBlob_stored (hlibrary : Documented library)
    (hvariable : variableLength binding.bufferType = true)
    (h : Stored (some bytes) binding binding') (htruncated : binding'.error = true → truncated = true) :
    ∃ again, readBlob library truncated binding' (some bytes) = .ok (bytes, again) ∧
      again.bufferType = binding'.bufferType ∧
      again.buffer.length = binding'.buffer.length := by
  cases herror : binding'.error with
  | true =>
    have hroomy : Roomy (some bytes)
        { binding' with buffer := List.replicate binding'.length 0 } := by
      intro _ _
      exact Or.inl (h.bufferType ▸ hvariable)
    obtain ⟨refetched, hfetch, hr⟩ := hlibrary.fetchColumn _ _ hroomy
    have hread := hr.readBytes (by simp [h.length bytes rfl])
    rw [← hr.length bytes rfl] at hread
    have hboth : (truncated && binding'.error) = true := by simp [htruncated herror, herror]
    refine ⟨{ refetched with buffer := binding'.buffer }, ?_, hr.bufferType, rfl⟩
    rw [readBlob, if_pos hboth, hfetch, ok_bind, hread]
    rfl
  | false =>
    have hle : bytes.length ≤ binding.buffer.length := by
      by_contra hlt
      rw [h.error bytes rfl (by omega)] at herror
      cases herror
    have hread := h.readBytes hle
    rw [← h.length bytes rfl] at hread
    refine ⟨binding', ?_, rfl, rfl⟩
    rw [readBlob, herror, Bool.and_false, if_neg Bool.false_ne_true, hread]
    rfl

theorem Shaped.holds (hshaped : Shaped field binding) (hfits : fits field bytes = true)
    (hwide : wide field = true) (hblob : field.type ≠ .blob) :
    bytes.length ≤ binding.buffer.length := by
  obtain ⟨fresh, hbind, -, hsize⟩ := hshaped
  rw [hsize]
  cases htype : field.type with
  | blob => exact absurd htype hblob
  | longlong | long | tiny | datetime | date | float | double =>
    simp only [bindField, htype, Except.ok.injEq] at hbind
    obtain rfl := hbind
    simp only [fits, wide, htype, decide_eq_true_eq] at hfits hwide
    simp only [calloc, List.length_replicate]
    omega
  | string | varString | newdecimal | timestamp =>
    simp only [bindField, htype, Except.ok.injEq] at hbind
    obtain rfl := hbind
    simpa only [fits, htype, decide_eq_true_eq, calloc, List.length_replicate] using hfits
  | _ => simp [bindField, htype] at hbind

theorem Shaped.variable_blob (hshaped : Shaped field binding) (hblob : field.type = .blob) :
    variableLength binding.bufferType = true := by
  obtain ⟨fresh, hbind, htype, -⟩ := hshaped
  simp only [bindField, hblob, Except.ok.injEq] at hbind
  obtain rfl := hbind
  rw [htype]
  rfl

theorem Shaped.roomy {cell : Cell} (hshaped : Shaped field binding)
    (hconforms : Conforms field cell) (hwide : wide field = true) : Roomy cell binding := by
  intro bytes hbytes
  by_cases hblob : field.type = .blob
  · exact Or.inl (hshaped.variable_blob hblob)
  · exact Or.inr (hshaped.holds (hconforms bytes hbytes) hwide hblob)

theorem Shaped.same (hshaped : Shaped field binding)
    (htype : binding'.bufferType = binding.bufferType)
    (hsize : binding'.buffer.length = binding.buffer.length) : Shaped field binding' := by
  obtain ⟨fresh, hbind, hbuffer, hlength⟩ := hshaped
  exact ⟨fresh, hbind, htype.trans hbuffer, hsize.trans hlength⟩

theorem Shaped.reads (hlibrary : Documented library) (hshaped : Shaped field binding)
    (hfits : fits field bytes = true) (hwide : wide field = true)
    (h : Stored (some bytes) binding binding') (htruncated : binding'.error = true → truncated = true)
    (key : String) : ∃ again, readCell F library truncated key field.type binding' (some bytes) =
      .ok (objectOf F field.type bytes, again) ∧ Shaped field again := by
  have hshaped' := hshaped.same h.bufferType h.size
  have hread : ∀ n, n = bytes.length → field.type ≠ .blob →
      ∃ again, readObject F field.type n binding' = .ok (objectOf F field.type bytes, again) ∧
        Shaped field again := by
    rintro n rfl hblob
    refine ⟨binding', ?_, hshaped'⟩
    rw [readObject, h.readBytes (hshaped.holds hfits hwide hblob)]
    rfl
  unfold readCell
  rw [h.isNull, Option.isNone_some, if_neg Bool.false_ne_true]
  cases htype : field.type with
  | blob =>
    obtain ⟨again, hblob, hbuffer, hsize⟩ :=
      readBlob_stored hlibrary (hshaped.variable_blob htype) h htruncated
    refine ⟨again, ?_, hshaped'.same hbuffer hsize⟩
    simp only
    rw [hblob]
    rfl
  | longlong | long | tiny | datetime | date | float | double =>
    simp only [fits, htype, decide_eq_true_eq] at hfits hread ⊢
    exact hread _ hfits.symm (by simp)
  | string | varString | newdecimal | timestamp =>
    simp only [htype] at hread ⊢
    exact hread _ (h.length bytes rfl) (by simp)
  | _ =>
    obtain ⟨fresh, hbind, -⟩ := hshaped
    simp [bindField, htype] at hbind

theorem Shaped.readCell {cell : Cell} (hlibrary : Documented library)
    (hshaped : Shaped field binding) (hconforms : Conforms field cell) (hwide : wide field = true)
    (h : Stored cell binding binding') (htruncated : binding'.error = true → truncated = true)
    (key : String) : ∃ again, Fetch.readCell F library truncated key field.type binding' cell =
      .ok (objectOfCell F field.type cell, again) ∧ Shaped field again := by
  cases cell with
  | none =>
    refine ⟨binding', ?_, hshaped.same h.bufferType h.size⟩
    unfold Fetch.readCell
    rw [h.isNull, Option.isNone_none, if_pos rfl]
    rfl
  | some bytes => exact hshaped.reads F hlibrary (hconforms bytes rfl) hwide h htruncated key

end Column

section Rows
variable {library : MysqlLibrary} {fields : List MysqlField} {bindings bindings' : List MysqlBind}
  {truncated : Bool}

def Conforming (fields : List MysqlField) (cells : List Cell) : Prop :=
  List.Forall₂ Conforms fields cells

theorem shaped_roomy {cells : List Cell} (hshaped : List.Forall₂ Shaped fields bindings)
    (hconforms : Conforming fields cells) (hwide : ∀ field ∈ fields, wide field = true) :
    List.Forall₂ Roomy cells bindings := by
  induction hshaped generalizing cells with
  | nil =>
    obtain rfl := List.forall₂_nil_left_iff.mp hconforms
    exact .nil
  | @cons field binding fields bindings hhead htail ih =>
    obtain ⟨cell, cells, hcell, hcells, rfl⟩ := List.forall₂_cons_left_iff.mp hconforms
    exact .cons (hhead.roomy hcell (hwide field List.mem_cons_self))
      (ih hcells (fun f hf => hwide f (List.mem_cons_of_mem _ hf)))

theorem shaped_stored {cells : List Cell} (hshaped : List.Forall₂ Shaped fields bindings)
    (h : StoredRow cells bindings bindings') : List.Forall₂ Shaped fields bindings' := by
  induction h generalizing fields with
  | nil => exact hshaped
  | cons hcell _ ih =>
    obtain ⟨field, fields, hhead, htail, rfl⟩ := List.forall₂_cons_right_iff.mp hshaped
    exact .cons (hhead.same hcell.bufferType hcell.size) (ih htail)

-- A row that raises leaves its buffers as they are; nothing reads them again.
theorem readRow_reads (hlibrary : Documented library) {cells : List Cell}
    (hshaped : List.Forall₂ Shaped fields bindings) (hconforms : Conforming fields cells)
    (hwide : ∀ field ∈ fields, wide field = true) (h : StoredRow cells bindings bindings')
    (htruncated : ∀ binding ∈ bindings', binding.error = true → truncated = true)
    {keys : List String} (hkeys : keys.length = fields.length) (dict : Dictionary Decimal Date) :
    ∃ again, List.Forall₂ Shaped fields again ∧
      readRow F library truncated (keys.zip (fields.map MysqlField.type)) bindings' cells dict =
        (objectsOfRow F (keys.zip (fields.map MysqlField.type)) cells dict).map
          (fun dict => (dict, again)) := by
  induction h generalizing fields keys dict with
  | nil =>
    obtain rfl := List.forall₂_nil_right_iff.mp hshaped
    obtain rfl := List.length_eq_zero_iff.mp hkeys
    exact ⟨[], .nil, rfl⟩
  | @cons cell binding binding' cells bindings bindings' hcell hcells ih =>
    obtain ⟨field, fields, hhead, htail, rfl⟩ := List.forall₂_cons_right_iff.mp hshaped
    obtain ⟨hconform, hconforms⟩ := List.forall₂_cons.mp hconforms
    obtain ⟨key, keys, rfl⟩ := List.exists_cons_of_length_eq_add_one hkeys
    obtain ⟨again, hread, hagain⟩ := hhead.readCell F hlibrary hconform
      (hwide field List.mem_cons_self) hcell (htruncated binding' List.mem_cons_self) key
    rw [List.map_cons, List.zip_cons_cons, readRow, objectsOfRow, hread, ok_bind]
    simp only
    cases hassign : assign F key dict (objectOfCell F field.type cell) with
    | error e => exact ⟨again :: bindings', .cons hagain (shaped_stored htail hcells), rfl⟩
    | ok dict' =>
      obtain ⟨rest, hrest, hrow⟩ := ih htail hconforms
        (fun f hf => hwide f (List.mem_cons_of_mem _ hf))
        (fun b hb => htruncated b (List.mem_cons_of_mem _ hb)) (by simpa using hkeys) dict'
      refine ⟨again :: rest, .cons hagain hrest, ?_⟩
      rw [ok_bind, ok_bind, hrow]
      cases objectsOfRow F (keys.zip (fields.map MysqlField.type)) cells dict' <;> rfl

theorem fetchRows_eq_mapM (hlibrary : Documented library) (connection : HostRef)
    {keys : List String} (hkeys : keys.length = fields.length)
    (hshaped : List.Forall₂ Shaped fields bindings)
    (hwide : ∀ field ∈ fields, wide field = true)
    {replies : List (Except MysqlError (List Cell))}
    (hconforms : ∀ cells, .ok cells ∈ replies → Conforming fields cells) :
    fetchRows F library connection (keys.zip (fields.map MysqlField.type)) bindings replies =
      replies.mapM (objectsOfReply F connection (keys.zip (fields.map MysqlField.type))) := by
  induction replies generalizing bindings with
  | nil => rfl
  | cons reply replies ih =>
    rw [List.mapM_cons]
    cases reply with
    | error error => rfl
    | ok cells =>
      have hcells := hconforms cells List.mem_cons_self
      obtain ⟨truncated, bindings', hfetch, hstored, htruncated⟩ :=
        hlibrary.fetch _ _ (shaped_roomy hshaped hcells hwide)
      obtain ⟨again, hagain, hrow⟩ := readRow_reads F hlibrary hshaped hcells hwide hstored
        htruncated hkeys (fun _ => none)
      have hlater := ih hagain (fun cells' h => hconforms cells' (List.mem_cons_of_mem _ h))
      rw [fetchRows, hfetch, ok_bind]
      simp only
      rw [hrow, objectsOfReply]
      cases objectsOfRow F (keys.zip (fields.map MysqlField.type)) cells (fun _ => none) with
      | error e => rfl
      | ok dict => exact congrArg (· >>= fun dicts => Except.ok (dict :: dicts)) hlater

end Rows

-- A library that does what the comment says and no more.
section Copying
variable {cell : Cell} {cells : List Cell} {binding binding' : MysqlBind}
  {bindings bindings' : List MysqlBind}

def copyColumn (cell : Cell) (binding : MysqlBind) : Except FetchFailure MysqlBind :=
  match cell with
  | none => .ok { binding with error := false, isNull := true }
  | some bytes =>
    let copied :=
      if variableLength binding.bufferType then bytes.take binding.buffer.length else bytes
    match write copied binding.buffer with
    | none => .error .outOfBounds
    | some buffer => .ok { binding with
        buffer := buffer
        length := bytes.length
        error := decide (copied.length < bytes.length)
        isNull := false }

def copyColumns : List Cell → List MysqlBind → Except FetchFailure (List MysqlBind)
  | cell :: cells, binding :: bindings => do
    let binding ← copyColumn cell binding
    let bindings ← copyColumns cells bindings
    pure (binding :: bindings)
  | _, bindings => pure bindings

def copying : MysqlLibrary where
  mysqlStmtFetch cells bindings :=
    (copyColumns cells bindings).map (fun bindings => (bindings.any MysqlBind.error, bindings))
  mysqlStmtFetchColumn := copyColumn

theorem copyColumn_stored (h : copyColumn cell binding = .ok binding') :
    Stored cell binding binding' := by
  cases cell with
  | none =>
    obtain rfl := Except.ok.inj h
    exact ⟨rfl, rfl, rfl, by simp, by simp, by simp⟩
  | some bytes =>
    simp only [copyColumn] at h
    split at h
    · cases h
    next buffer hwrite =>
      obtain rfl := Except.ok.inj h
      refine ⟨rfl, write_length hwrite, rfl, ?_, ?_, ?_⟩ <;> rintro _ ⟨⟩
      · rfl
      · intro hle
        rw [List.take_of_length_le hle, ite_self] at hwrite
        have hread := read_write hwrite
        rw [read_of_le (write_length hwrite ▸ hle)] at hread
        exact Option.some.inj hread
      · intro hlt
        refine decide_eq_true (lt_of_le_of_lt ?_ hlt)
        by_contra hlarge
        rw [write_eq_none.mpr (Nat.lt_of_not_le hlarge)] at hwrite
        cases hwrite

theorem copyColumn_roomy (h : Roomy cell binding) :
    ∃ binding', copyColumn cell binding = .ok binding' := by
  cases cell with
  | none => exact ⟨_, rfl⟩
  | some bytes =>
    simp only [copyColumn]
    split
    next hwrite =>
      have hlt := write_eq_none.mp hwrite
      rcases h bytes rfl with hvariable | hle
      · rw [if_pos hvariable, List.length_take] at hlt
        omega
      · rw [List.take_of_length_le hle, ite_self] at hlt
        omega
    next => exact ⟨_, rfl⟩

theorem copyColumn_overrun (h : ¬Roomy cell binding) :
    copyColumn cell binding = .error .outOfBounds := by
  simp only [Roomy, not_forall, not_or, Bool.not_eq_true, Nat.not_le] at h
  obtain ⟨bytes, rfl, hfixed, hlt⟩ := h
  simp only [copyColumn, hfixed, Bool.false_eq_true, if_false, write_eq_none.mpr hlt]

theorem copyColumns_stored (hlen : cells.length = bindings.length)
    (h : copyColumns cells bindings = .ok bindings') : StoredRow cells bindings bindings' := by
  induction cells generalizing bindings bindings' with
  | nil =>
    obtain rfl := List.length_eq_zero_iff.mp hlen.symm
    obtain rfl := Except.ok.inj h
    exact .nil
  | cons cell cells ih =>
    obtain ⟨binding, bindings, rfl⟩ := List.exists_cons_of_length_eq_add_one hlen.symm
    rw [copyColumns] at h
    cases hcell : copyColumn cell binding with
    | error e => simp [hcell, Bind.bind, Except.bind] at h
    | ok binding' =>
      rw [hcell, ok_bind] at h
      cases hcells : copyColumns cells bindings with
      | error e => simp [hcells, Bind.bind, Except.bind] at h
      | ok bindings₁ =>
        rw [hcells, ok_bind] at h
        obtain rfl := Except.ok.inj h
        exact .cons (copyColumn_stored hcell) (ih (by simpa using hlen) hcells)

theorem copyColumns_roomy (h : List.Forall₂ Roomy cells bindings) :
    ∃ bindings', copyColumns cells bindings = .ok bindings' := by
  induction h with
  | nil => exact ⟨[], rfl⟩
  | cons hcell _ ih =>
    obtain ⟨binding', hhead⟩ := copyColumn_roomy hcell
    obtain ⟨bindings', htail⟩ := ih
    exact ⟨binding' :: bindings', by rw [copyColumns, hhead, ok_bind, htail]; rfl⟩

theorem copyColumns_overrun (hlen : cells.length = bindings.length)
    (h : ¬List.Forall₂ Roomy cells bindings) :
    copyColumns cells bindings = .error .outOfBounds := by
  induction cells generalizing bindings with
  | nil =>
    obtain rfl := List.length_eq_zero_iff.mp hlen.symm
    exact absurd .nil h
  | cons cell cells ih =>
    obtain ⟨binding, bindings, rfl⟩ := List.exists_cons_of_length_eq_add_one hlen.symm
    rw [copyColumns]
    by_cases hcell : Roomy cell binding
    · obtain ⟨binding', hhead⟩ := copyColumn_roomy hcell
      rw [hhead, ok_bind, ih (by simpa using hlen) (fun hcells => h (.cons hcell hcells))]
      rfl
    · rw [copyColumn_overrun hcell]
      rfl

theorem copying_documented : Documented copying where
  fetch cells bindings h := by
    obtain ⟨bindings', hcopy⟩ := copyColumns_roomy h
    have hfetch : copying.mysqlStmtFetch cells bindings =
        .ok (bindings'.any MysqlBind.error, bindings') := by
      simp only [copying, hcopy, Except.map]
    refine ⟨_, bindings', hfetch, copyColumns_stored h.length_eq hcopy, ?_⟩
    exact fun binding hbinding herror => List.any_eq_true.mpr ⟨binding, hbinding, herror⟩
  overrun cells bindings hlen h := by
    simp only [copying, copyColumns_overrun hlen h, Except.map]
  fetchColumn cell binding h := by
    obtain ⟨binding', hcopy⟩ := copyColumn_roomy h
    exact ⟨binding', hcopy, copyColumn_stored hcopy⟩

end Copying

section Names

def fieldNames (useExtendedNames : Bool) : List String → List MysqlField → List String
  | _, [] => []
  | sourceTables, field :: fields =>
    fieldName useExtendedNames (sourceTables.insert field.table) field ::
      fieldNames useExtendedNames (sourceTables.insert field.table) fields

def fetchField (field : MysqlField) (name : String) : MysqlFetchField where
  name := name
  width := field.length
  decimals := field.decimals
  fieldType := field.type
  primaryKey := field.primaryKey

def Statement.extended (useExtendedNames : Bool) (statement : Statement) (fields : List MysqlField)
    (bindings : List MysqlBind) : Statement where
  fieldNames := statement.fieldNames ++ Fetch.fieldNames useExtendedNames statement.sourceTables fields
  fields := statement.fields ++ List.zipWith fetchField fields
    (Fetch.fieldNames useExtendedNames statement.sourceTables fields)
  bindings := statement.bindings ++ bindings
  sourceTables := fields.foldl (fun tables field => tables.insert field.table) statement.sourceTables

variable {useExtendedNames : Bool} {fields : List MysqlField}

theorem foldlM_addField (statement : Statement) :
    fields.foldlM (addField useExtendedNames) statement =
      (fields.mapM bindField).map (statement.extended useExtendedNames fields) := by
  induction fields generalizing statement with
  | nil => simp [Statement.extended, fieldNames, Except.map, pure, Except.pure]
  | cons field fields ih =>
    rw [List.foldlM_cons, List.mapM_cons, addField]
    cases hbind : bindField field with
    | error e => rfl
    | ok binding =>
      rw [ok_bind, ok_bind, pure_bind, ih]
      cases fields.mapM bindField with
      | error e => rfl
      | ok bindings =>
        simp [Except.map, pure, Except.pure, Bind.bind, Except.bind, Statement.extended, fieldNames,
          fetchField]

theorem bindFields_eq : bindFields useExtendedNames fields =
    (fields.mapM bindField).map (Statement.extended useExtendedNames {} fields) :=
  foldlM_addField {}

theorem dotted_inj {t t' n n' : String} (hn : '.' ∉ n.toList) (hn' : '.' ∉ n'.toList)
    (h : t ++ "." ++ n = t' ++ "." ++ n') : t = t' ∧ n = n' := by
  have hlist : t.toList ++ '.' :: n.toList = t'.toList ++ '.' :: n'.toList := by
    simpa [String.toList_append] using congrArg String.toList h
  rcases List.append_eq_append_iff.mp hlist with ⟨as, ht, hrest⟩ | ⟨as, ht, hrest⟩ <;>
    cases as with
    | nil =>
      simp only [List.append_nil, List.nil_append, List.cons.injEq, true_and] at ht hrest
      simp only [String.toList_inj] at ht hrest
      exact ⟨by simp [ht], by simp [hrest]⟩
    | cons c as =>
      obtain ⟨rfl, hrest⟩ := List.cons.inj hrest
      simp_all

theorem mem_fieldNames {tables : List String} {name : String}
    (h : name ∈ fieldNames useExtendedNames tables fields) : ∃ field ∈ fields,
      ∃ tables', tables ⊆ tables' ∧ tables.length ≤ tables'.length ∧ field.table ∈ tables' ∧
        name = fieldName useExtendedNames tables' field := by
  induction fields generalizing tables with
  | nil => exact absurd h List.not_mem_nil
  | cons field fields ih =>
    have hsub : tables ⊆ tables.insert field.table := List.subset_insert _ _
    have hle : tables.length ≤ (tables.insert field.table).length := by
      rw [List.length_insert]
      split <;> omega
    rcases List.mem_cons.mp h with rfl | h
    · exact ⟨field, List.mem_cons_self, _, hsub, hle, List.mem_insert_self, rfl⟩
    · obtain ⟨g, hg, tables', hsub', hle', hmem, rfl⟩ := ih h
      exact ⟨g, List.mem_cons_of_mem _ hg, tables', List.Subset.trans hsub hsub', hle.trans hle',
        hmem, rfl⟩

theorem fieldName_ne {tables tables' : List String} {field later : MysqlField}
    (hsub : tables ⊆ tables') (hle : tables.length ≤ tables'.length) (hmem : field.table ∈ tables)
    (hmem' : later.table ∈ tables') (hfield : '.' ∉ field.name.toList)
    (hlater : '.' ∉ later.name.toList)
    (hne : (field.table, field.name) ≠ (later.table, later.name)) :
    fieldName useExtendedNames tables field ≠ fieldName useExtendedNames tables' later := by
  intro heq
  simp only [fieldName] at heq
  split at heq
  next hqualified =>
    have hqualified' : (useExtendedNames || decide (1 < tables'.length)) = true := by
      simp only [Bool.or_eq_true, decide_eq_true_eq] at hqualified ⊢
      exact hqualified.imp_right (fun h => h.trans_le hle)
    rw [if_pos hqualified'] at heq
    obtain ⟨ht, hn⟩ := dotted_inj hfield hlater heq
    exact hne (by rw [ht, hn])
  next =>
    split at heq
    · exact hfield (by simp [heq, String.toList_append])
    next hplain =>
      have hone : tables'.length ≤ 1 := by
        simp only [Bool.or_eq_true, decide_eq_true_eq, not_or] at hplain
        omega
      have htable : field.table = later.table := by
        obtain ⟨t, ht⟩ := List.length_eq_one_iff.mp
          (Nat.le_antisymm hone (List.length_pos_of_mem hmem'))
        have hfirst := hsub hmem
        rw [ht, List.mem_singleton] at hfirst hmem'
        rw [hfirst, hmem']
      exact hne (by rw [htable, heq])

theorem fieldNames_nodup {tables : List String}
    (hne : (fields.map (fun field => (field.table, field.name))).Nodup)
    (hdots : ∀ field ∈ fields, '.' ∉ field.name.toList) :
    (fieldNames useExtendedNames tables fields).Nodup := by
  induction fields generalizing tables with
  | nil => exact .nil
  | cons field fields ih =>
    obtain ⟨hnew, hne⟩ := List.nodup_cons.mp hne
    refine List.nodup_cons.mpr ⟨fun hmem => ?_,
      ih hne (fun f hf => hdots f (List.mem_cons_of_mem _ hf))⟩
    obtain ⟨later, hlater, tables', hsub, hle, htable, heq⟩ := mem_fieldNames hmem
    refine fieldName_ne hsub hle List.mem_insert_self htable (hdots field List.mem_cons_self)
      (hdots later (List.mem_cons_of_mem _ hlater)) (fun h => hnew ?_) heq
    exact List.mem_map.mpr ⟨later, hlater, h.symm⟩

theorem fieldNames_length {tables : List String} :
    (fieldNames useExtendedNames tables fields).length = fields.length := by
  induction fields generalizing tables with
  | nil => rfl
  | cons field fields ih => simp [fieldNames, ih]

end Names

section Results
variable {library : MysqlLibrary} {call : FetchCall} {fields : List MysqlField}

def held (before : Option (FetchedValue Decimal Date)) :
    Assignment Decimal Date → Option (FetchedValue Decimal Date)
  | .value v => some v
  | .nil => none
  | .skip => before

theorem assign_self {key : String} {dict dict' : Dictionary Decimal Date}
    {object : Assignment Decimal Date} (h : assign F key dict object = .ok dict') :
    dict' key = held (dict key) object := by
  cases object with
  | value v =>
    obtain rfl := Except.ok.inj h
    exact Function.update_self _ _ _
  | nil =>
    simp only [assign] at h
    split at h
    · obtain rfl := Except.ok.inj h
      exact Function.update_self _ _ _
    · cases h
  | skip =>
    obtain rfl := Except.ok.inj h
    rfl

theorem assign_of_ne {key other : String} (hne : other ≠ key) {dict dict' : Dictionary Decimal Date}
    {object : Assignment Decimal Date} (h : assign F key dict object = .ok dict') :
    dict' other = dict other := by
  cases object with
  | value v =>
    obtain rfl := Except.ok.inj h
    exact Function.update_of_ne hne _ _
  | nil =>
    simp only [assign] at h
    split at h
    · obtain rfl := Except.ok.inj h
      exact Function.update_of_ne hne _ _
    · cases h
  | skip =>
    obtain rfl := Except.ok.inj h
    rfl

theorem objectsOfRow_of_notMem {columns : List (String × FieldType)} {cells : List Cell}
    {dict dict' : Dictionary Decimal Date} (h : objectsOfRow F columns cells dict = .ok dict')
    {key : String} (hkey : key ∉ columns.map Prod.fst) : dict' key = dict key := by
  induction columns generalizing cells dict with
  | nil =>
    obtain rfl := Except.ok.inj h
    rfl
  | cons column columns ih =>
    cases cells with
    | nil =>
      obtain rfl := Except.ok.inj h
      rfl
    | cons cell cells =>
      simp only [List.map_cons, List.mem_cons, not_or] at hkey
      rw [objectsOfRow] at h
      cases hassign : assign F column.1 dict (objectOfCell F column.2 cell) with
      | error e => simp [hassign, Bind.bind, Except.bind] at h
      | ok next =>
        rw [hassign, ok_bind] at h
        rw [ih h hkey.2, assign_of_ne F hkey.1 hassign]

theorem objectsOfRow_get {columns : List (String × FieldType)} {cells : List Cell}
    {dict dict' : Dictionary Decimal Date} (h : objectsOfRow F columns cells dict = .ok dict')
    (hnodup : (columns.map Prod.fst).Nodup) {x : Nat} {key : String} {fieldType : FieldType}
    {cell : Cell} (hcolumn : columns[x]? = some (key, fieldType)) (hcell : cells[x]? = some cell) :
    dict' key = held (dict key) (objectOfCell F fieldType cell) := by
  induction columns generalizing cells dict x with
  | nil => simp at hcolumn
  | cons column columns ih =>
    cases cells with
    | nil => simp at hcell
    | cons first cells =>
      obtain ⟨hnew, hnodup⟩ := List.nodup_cons.mp hnodup
      rw [objectsOfRow] at h
      cases hassign : assign F column.1 dict (objectOfCell F column.2 first) with
      | error e => simp [hassign, Bind.bind, Except.bind] at h
      | ok next =>
        rw [hassign, ok_bind] at h
        cases x with
        | zero =>
          obtain rfl := Option.some.inj hcolumn
          obtain rfl := Option.some.inj hcell
          rw [objectsOfRow_of_notMem F h hnew, assign_self F hassign]
        | succ x =>
          have hne : key ≠ column.1 := by
            rintro rfl
            rw [List.getElem?_cons_succ] at hcolumn
            exact hnew (List.mem_map.mpr ⟨_, List.mem_of_getElem? hcolumn, rfl⟩)
          rw [ih h hnodup hcolumn hcell, assign_of_ne F hne hassign]

theorem bound_shaped {bindings : List MysqlBind} (h : fields.mapM bindField = .ok bindings) :
    List.Forall₂ Shaped fields bindings :=
  (mapM_ok h).imp (fun _ _ hbind => ⟨_, hbind, rfl, rfl⟩)

def columnsOf (useExtendedNames : Bool) (fields : List MysqlField) : List (String × FieldType) :=
  (fieldNames useExtendedNames [] fields).zip (fields.map MysqlField.type)

theorem fetchWithCommand_bound {bindings : List MysqlBind}
    (hbind : call.fields.mapM bindField = .ok bindings) :
    fetchWithCommand F library call = (do
      raiseFailed call.connection "perform mysql_stmt_bind_result()" call.prepare
      raiseFailed call.connection "perform mysql_stmt_bind_result()" call.bind
      raiseFailed call.connection "perform mysql_stmt_execute()" call.execute
      fetchRows F library call.connection (columnsOf call.useExtendedNames call.fields) bindings
        call.replies) := by
  rw [fetchWithCommand, bindFields_eq, hbind]
  rfl

-- The buffers that the rows share come out as if every row had its own.
theorem fetchRows_bound (hlibrary : Documented library) {bindings : List MysqlBind}
    (hbind : call.fields.mapM bindField = .ok bindings)
    (hwide : ∀ field ∈ call.fields, wide field = true)
    (hconforms : ∀ cells, .ok cells ∈ call.replies → Conforming call.fields cells) :
    fetchRows F library call.connection (columnsOf call.useExtendedNames call.fields) bindings
        call.replies =
      call.replies.mapM (objectsOfReply F call.connection
        (columnsOf call.useExtendedNames call.fields)) :=
  fetchRows_eq_mapM F hlibrary call.connection fieldNames_length (bound_shaped hbind) hwide
    hconforms

theorem fetchWithCommand_ok {dicts : List (Dictionary Decimal Date)}
    (h : fetchWithCommand F library call = .ok dicts) :
    call.prepare = none ∧ call.bind = none ∧ call.execute = none ∧
      ∃ bindings, call.fields.mapM bindField = .ok bindings := by
  rw [fetchWithCommand] at h
  cases hprepare : call.prepare with
  | some error => simp [hprepare, raiseFailed, Bind.bind, Except.bind] at h
  | none =>
    rw [hprepare, raiseFailed, ok_bind, bindFields_eq] at h
    cases hbound : call.fields.mapM bindField with
    | error e =>
      rw [hbound] at h
      cases h
    | ok bindings =>
      rw [hbound] at h
      simp only [Except.map] at h
      cases hbind : call.bind with
      | some error => simp [hbind, raiseFailed, Bind.bind, Except.bind] at h
      | none =>
        cases hexecute : call.execute with
        | some error => simp [hbind, hexecute, raiseFailed, Bind.bind, Except.bind] at h
        | none => exact ⟨rfl, rfl, rfl, bindings, rfl⟩

theorem fetch_cells (hlibrary : Documented library)
    (hwide : ∀ field ∈ call.fields, wide field = true)
    (hconforms : ∀ cells, .ok cells ∈ call.replies → Conforming call.fields cells)
    (hne : (call.fields.map (fun field => (field.table, field.name))).Nodup)
    (hdots : ∀ field ∈ call.fields, '.' ∉ field.name.toList)
    {dicts : List (Dictionary Decimal Date)}
    (hfetch : fetchWithCommand F library call = .ok dicts) :
    dicts.length = call.replies.length ∧ ∀ (i x : Nat) cells field cell name,
      call.replies[i]? = some (.ok cells) → call.fields[x]? = some field →
      cells[x]? = some cell → (fieldNames call.useExtendedNames [] call.fields)[x]? = some name →
      dicts[i]?.map (fun dict => dict name) = some (held none (objectOfCell F field.type cell)) := by
  obtain ⟨hprepare, hbind, hexecute, bindings, hbound⟩ := fetchWithCommand_ok F hfetch
  rw [fetchWithCommand_bound F hbound, fetchRows_bound F hlibrary hbound hwide hconforms, hprepare,
    hbind, hexecute] at hfetch
  have hrows := mapM_ok hfetch
  refine ⟨hrows.length_eq.symm, fun i x cells field cell name hreply hfield hcell hname => ?_⟩
  obtain ⟨hi, hreply⟩ := List.getElem?_eq_some_iff.mp hreply
  have hi' : i < dicts.length := hrows.length_eq ▸ hi
  have hrow := hrows.get hi hi'
  simp only [List.get_eq_getElem, hreply] at hrow
  have hcolumn : (columnsOf call.useExtendedNames call.fields)[x]? = some (name, field.type) := by
    simp [columnsOf, List.getElem?_zip_eq_some, hname, hfield]
  have hkeys : ((columnsOf call.useExtendedNames call.fields).map Prod.fst).Nodup := by
    rw [columnsOf, List.map_fst_zip (by simp [fieldNames_length])]
    exact fieldNames_nodup hne hdots
  rw [List.getElem?_eq_getElem hi', Option.map_some]
  exact congrArg some (objectsOfRow_get F hrow hkeys hcolumn hcell)

-- The second row is fetched into buffers that hold the first, whose blob had not fitted.
theorem fetch_cells_joined :
    let F : Foundation Unit Unit := ⟨fun _ => none, fun _ => none, fun _ => none, true⟩
    let call : FetchCall :=
      { connection := 1
        fields := [{ table := "a", name := "id", length := 11, type := .long },
          { table := "b", name := "id", length := 11, type := .long },
          { table := "b", name := "note", length := 65535, type := .blob }]
        replies := [.ok [some [1, 0, 0, 0], some [255, 255, 255, 255],
            some (List.replicate 10001 104)],
          .ok [some [2, 0, 0, 0], none, some [33]]] }
    ∃ dicts, fetchWithCommand F copying call = .ok dicts ∧
      dicts.length = call.replies.length ∧ ∀ (i x : Nat) cells field cell name,
        call.replies[i]? = some (.ok cells) → call.fields[x]? = some field →
        cells[x]? = some cell → (fieldNames call.useExtendedNames [] call.fields)[x]? = some name →
        dicts[i]?.map (fun dict => dict name) =
          some (held none (objectOfCell F field.type cell)) := by
  intro F call
  have hconforms : ∀ cells, .ok cells ∈ call.replies → Conforming call.fields cells := by
    intro cells hcells
    simp only [call, List.mem_cons, Except.ok.injEq, List.not_mem_nil, or_false] at hcells
    rcases hcells with rfl | rfl <;> refine .cons ?_ (.cons ?_ (.cons ?_ .nil)) <;>
      intro bytes hbytes <;> cases hbytes <;> rfl
  have hok : (fetchWithCommand F copying call).toBool = true := by decide +kernel
  cases hfetch : fetchWithCommand F copying call with
  | error e =>
    rw [hfetch] at hok
    cases hok
  | ok dicts =>
    exact ⟨dicts, rfl, fetch_cells F copying_documented (by decide) hconforms (by decide)
      (by decide) hfetch⟩

end Results

section Bounds
variable {library : MysqlLibrary} {useExtendedNames : Bool} {fields : List MysqlField}
  {connection : HostRef} {bindings : List MysqlBind}

theorem assign_inBounds (key : String) (dict : Dictionary Decimal Date)
    (object : Assignment Decimal Date) : assign F key dict object ≠ .error .outOfBounds := by
  cases object with
  | nil =>
    simp only [assign]
    split <;> simp
  | _ => simp [assign]

theorem objectsOfRow_inBounds {columns : List (String × FieldType)} {cells : List Cell}
    {dict : Dictionary Decimal Date} : objectsOfRow F columns cells dict ≠ .error .outOfBounds := by
  induction columns generalizing cells dict with
  | nil => simp [objectsOfRow, pure, Except.pure]
  | cons column columns ih =>
    cases cells with
    | nil => simp [objectsOfRow, pure, Except.pure]
    | cons cell cells =>
      rw [objectsOfRow]
      cases hassign : assign F column.1 dict (objectOfCell F column.2 cell) with
      | error e =>
        rintro h
        obtain rfl := Except.error.inj h
        exact assign_inBounds F _ _ _ hassign
      | ok next => exact ih

theorem mapM_error {α β ε : Type} {f : α → Except ε β} {as : List α} {e : ε}
    (h : as.mapM f = .error e) : ∃ a ∈ as, f a = .error e := by
  induction as with
  | nil => cases h
  | cons a as ih =>
    rw [List.mapM_cons] at h
    cases hhead : f a with
    | error e' =>
      rw [hhead] at h
      obtain rfl := Except.error.inj h
      exact ⟨a, List.mem_cons_self, hhead⟩
    | ok b =>
      cases htail : as.mapM f with
      | ok bs => simp [hhead, htail, Bind.bind, Except.bind, pure, Except.pure] at h
      | error e' =>
        rw [hhead, htail] at h
        obtain rfl := Except.error.inj h
        obtain ⟨a', hmem, ha'⟩ := ih htail
        exact ⟨a', List.mem_cons_of_mem _ hmem, ha'⟩

def zeroCell (field : MysqlField) : Cell :=
  match field.type with
  | .float => some (List.replicate 4 0)
  | .double => some (List.replicate 8 0)
  | _ => none

theorem conforms_zeroCell (field : MysqlField) : Conforms field (zeroCell field) := by
  intro bytes hbytes
  cases htype : field.type with
  | float | double =>
    simp only [zeroCell, htype, Option.mem_def, Option.some.injEq] at hbytes
    obtain rfl := hbytes
    simp [fits, htype]
  | _ => simp [zeroCell, htype] at hbytes

theorem narrow_unroomy {field : MysqlField} {binding : MysqlBind} (hshaped : Shaped field binding)
    (hnarrow : wide field = false) : ¬Roomy (zeroCell field) binding := by
  obtain ⟨fresh, hbind, hbuffer, hsize⟩ := hshaped
  intro hroomy
  cases htype : field.type with
  | float | double =>
    simp only [bindField, htype, Except.ok.injEq] at hbind
    obtain rfl := hbind
    simp only [wide, htype, decide_eq_false_iff_not, Nat.not_le] at hnarrow
    simp only [calloc, List.length_replicate] at hbuffer hsize
    have hroom := hroomy _ (show (List.replicate _ 0) ∈ zeroCell field by rw [zeroCell, htype]; rfl)
    rw [hbuffer, hsize, List.length_replicate] at hroom
    exact absurd (hroom.resolve_left (by decide)) (by omega)
  | _ => simp [wide, htype] at hnarrow

theorem roomy_wide (hshaped : List.Forall₂ Shaped fields bindings)
    (hroomy : List.Forall₂ Roomy (fields.map zeroCell) bindings) :
    ∀ field ∈ fields, wide field = true := by
  induction hshaped with
  | nil => simp
  | cons hhead _ ih =>
    obtain ⟨hroom, hrooms⟩ := List.forall₂_cons.mp hroomy
    refine List.forall_mem_cons.mpr ⟨?_, ih hrooms⟩
    by_contra hnarrow
    exact narrow_unroomy hhead (by simpa using hnarrow) hroom

theorem inBounds_iff (hlibrary : Documented library)
    (hbind : fields.mapM bindField = .ok bindings) :
    (∀ replies : List (Except MysqlError (List Cell)),
      (∀ cells, .ok cells ∈ replies → Conforming fields cells) →
        fetchWithCommand F library { connection, useExtendedNames, fields, replies } ≠
          .error .outOfBounds) ↔
      ∀ field ∈ fields, wide field = true := by
  have hshaped := bound_shaped hbind
  constructor
  · intro hbounds
    refine roomy_wide hshaped ?_
    by_contra hoverrun
    have hcells : Conforming fields (fields.map zeroCell) := by
      rw [Conforming, List.forall₂_map_right_iff, List.forall₂_same]
      exact fun f _ => conforms_zeroCell f
    refine hbounds [.ok (fields.map zeroCell)] (by simpa using hcells) ?_
    have hlen : (fields.map zeroCell).length = bindings.length := by
      rw [List.length_map]
      exact hshaped.length_eq
    rw [fetchWithCommand_bound F hbind, fetchRows, hlibrary.overrun _ _ hlen hoverrun]
    rfl
  · intro hwide replies hconforms hfetch
    rw [fetchWithCommand_bound F hbind, fetchRows_bound F hlibrary hbind hwide hconforms] at hfetch
    obtain ⟨reply, -, hreply⟩ := mapM_error hfetch
    cases reply with
    | error e => cases hreply
    | ok cells => exact objectsOfRow_inBounds F hreply

-- A FLOAT(3,1) column is given a buffer of three bytes.
theorem inBounds_iff_narrow :
    let F : Foundation Unit Unit := ⟨fun _ => none, fun _ => none, fun _ => none, true⟩
    let fields : List MysqlField := [{ table := "a", name := "x", length := 3, type := .float }]
    (∀ replies : List (Except MysqlError (List Cell)),
      (∀ cells, .ok cells ∈ replies → Conforming fields cells) →
        fetchWithCommand F copying { connection := 1, fields, replies } ≠ .error .outOfBounds) ↔
      ∀ field ∈ fields, wide field = true :=
  inBounds_iff _ copying_documented rfl

end Bounds

end DBMonitor.Fetch
