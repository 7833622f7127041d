import DBMonitor.Client.Fetch

namespace DBMonitor.Fetch

open Program

variable {Decimal Date : Type} (F : Foundation Decimal Date)

def unsupported (fields : List MysqlField) : Option Nat :=
  (fields.find? (fun field => (bindField field).toOption.isNone)).map (fun field => field.type.code)

def Holds (fields : List MysqlField) (cells : List Cell) (name : String) (fieldType : FieldType)
    (cell : Cell) : Prop :=
  ∃ (x : Nat) (field : MysqlField), fields[x]? = some field ∧ field.name = name ∧
    field.type = fieldType ∧ cells[x]? = some cell

structure Carries (fields : List MysqlField) (cells : List Cell) (row : QueryRow) : Prop where
  id : Holds fields cells "ID" .longlong (some (Memory.storeSigned 8 row.id))
  host : Holds fields cells "HOST" .varString (some row.host.toUTF8.data.toList)
  time : Holds fields cells "TIME" .long (some (Memory.storeSigned 4 row.time))
  info : Holds fields cells "INFO" .blob row.info
  idRange : -2 ^ 63 ≤ row.id ∧ row.id < 2 ^ 63
  timeRange : -2 ^ 31 ≤ row.time ∧ row.time < 2 ^ 31

-- Where the dictionary does not take nil as a removal, no object may be nil.
inductive Sends (fields : List MysqlField) :
    Except MysqlError (List Cell) → Except MysqlError (Time × QueryRow) → Prop where
  | failed (error : MysqlError) : Sends fields (.error error) (.error error)
  | row {cells : List Cell} {time : Time} {row : QueryRow} (hconforms : Conforming fields cells)
    (hobjects : List.Forall₂ (fun field cell =>
      F.nilRemoves = true ∨ objectOfCell F field.type cell ≠ .nil) fields cells)
    (hcarries : Carries fields cells row) : Sends fields (.ok cells) (.ok (time, row))

-- The client calls of a statement over one table, as the poll's server has them.
structure Answers (server : Server) (call : FetchCall) : Prop where
  prepare : server.prepare = call.prepare
  unbound : server.unbound = unsupported call.fields
  bind : server.bind = call.bind
  execute : server.execute = call.execute
  plainNames : call.useExtendedNames = false
  oneTable : ∃ table, ∀ field ∈ call.fields, field.table = table
  names : (call.fields.map MysqlField.name).Nodup
  wide : ∀ field ∈ call.fields, wide field = true
  rows : List.Forall₂ (Sends F call.fields) call.replies server.fetch

def Agrees (r : Except Failure (List (Time × QueryRow)))
    (fetched : Except FetchFailure (List (Dictionary Decimal Date))) : Prop :=
  match r with
  | .ok rows => ∃ dicts, fetched = .ok dicts ∧
    dicts.map QueryRow.ofDictionary = rows.map (fun row => some row.2)
  | .error (.mysqlException e) => fetched = .error (.raised e)
  | .error .nullDereference => False

section OneTable
variable {fields : List MysqlField}

theorem fieldNames_plain {table : String} {tables : List String}
    (htable : ∀ field ∈ fields, field.table = table) (htables : tables = [] ∨ tables = [table]) :
    fieldNames false tables fields = fields.map MysqlField.name := by
  induction fields generalizing tables with
  | nil => rfl
  | cons field fields ih =>
    have hinsert : tables.insert field.table = [table] := by
      rw [htable field List.mem_cons_self]
      rcases htables with rfl | rfl <;> simp
    rw [fieldNames, hinsert, ih (fun f hf => htable f (List.mem_cons_of_mem _ hf)) (Or.inr rfl)]
    simp [fieldName]

theorem bindField_error {field : MysqlField} {e : MysqlException}
    (h : bindField field = .error e) : e =
      { name := "No Binding"
        reason := "No binding support for field type " ++ toString field.type.code } := by
  cases htype : field.type <;> simp only [bindField, htype, reduceCtorEq, Except.error.injEq] at h <;>
    exact h.symm

theorem mapM_bindField_error {e : MysqlException} (h : fields.mapM bindField = .error e) :
    ∃ code, unsupported fields = some code ∧ e =
      { name := "No Binding", reason := "No binding support for field type " ++ toString code } := by
  induction fields with
  | nil => cases h
  | cons field fields ih =>
    rw [List.mapM_cons] at h
    cases hbind : bindField field with
    | error e' =>
      rw [hbind] at h
      obtain rfl := Except.error.inj h
      exact ⟨field.type.code, by simp [unsupported, hbind, Except.toOption], bindField_error hbind⟩
    | ok binding =>
      rw [hbind, ok_bind] at h
      cases hbinds : fields.mapM bindField with
      | ok bindings => simp [hbinds, Bind.bind, Except.bind, pure, Except.pure] at h
      | error e' =>
        rw [hbinds] at h
        obtain rfl := Except.error.inj h
        obtain ⟨code, hcode, he⟩ := ih hbinds
        exact ⟨code, by simpa [unsupported, hbind, Except.toOption] using hcode, he⟩

theorem mapM_bindField_ok {bindings : List MysqlBind} (h : fields.mapM bindField = .ok bindings) :
    unsupported fields = none := by
  rw [unsupported, Option.map_eq_none_iff, List.find?_eq_none]
  intro field hfield
  obtain ⟨i, rfl⟩ := List.mem_iff_get.mp hfield
  have hbind := (mapM_ok h).get i.2 ((mapM_ok h).length_eq ▸ i.2)
  rw [List.get_eq_getElem, List.get_eq_getElem] at hbind
  simp [hbind, Except.toOption]

end OneTable

section Row
variable {fields : List MysqlField} {cells : List Cell} {dict : Dictionary Decimal Date}

theorem stringWithBytes_toUTF8 (text : String) :
    stringWithBytes text.toUTF8.data.toList = some text := by
  simp only [stringWithBytes, Array.toArray_toList]
  exact dif_pos text.isValidUTF8

theorem objectsOfRow_ok {keys : List String}
    (hobjects : List.Forall₂ (fun field cell =>
      F.nilRemoves = true ∨ objectOfCell F field.type cell ≠ .nil) fields cells)
    (dict : Dictionary Decimal Date) :
    ∃ dict', objectsOfRow F (keys.zip (fields.map MysqlField.type)) cells dict = .ok dict' := by
  induction hobjects generalizing keys dict with
  | nil => exact ⟨dict, by cases keys <;> rfl⟩
  | @cons field cell fields cells hobject _ ih =>
    cases keys with
    | nil => exact ⟨dict, rfl⟩
    | cons key keys =>
      rw [List.map_cons, List.zip_cons_cons, objectsOfRow]
      cases hassigned : objectOfCell F field.type cell with
      | value v => exact ih _
      | nil =>
        have hremoves := hobject.resolve_right (fun hne => hne hassigned)
        rw [assign, if_pos hremoves]
        exact ih _
      | skip => exact ih _

theorem Holds.get {name : String} {fieldType : FieldType} {cell : Cell}
    (h : Holds fields cells name fieldType cell) (hnames : (fields.map MysqlField.name).Nodup)
    (hdict : objectsOfRow F ((fields.map MysqlField.name).zip (fields.map MysqlField.type)) cells
      (fun _ => none) = .ok dict) :
    dict name = held none (objectOfCell F fieldType cell) := by
  obtain ⟨x, field, hfield, rfl, rfl, hcell⟩ := h
  refine objectsOfRow_get F hdict ?_ (x := x) ?_ hcell
  · rwa [List.map_fst_zip (by simp)]
  · simp [List.getElem?_zip_eq_some, hfield]

theorem Carries.read {row : QueryRow} (h : Carries fields cells row)
    (hnames : (fields.map MysqlField.name).Nodup)
    (hdict : objectsOfRow F ((fields.map MysqlField.name).zip (fields.map MysqlField.type)) cells
      (fun _ => none) = .ok dict) : QueryRow.ofDictionary dict = some row := by
  have hid : dict "ID" = some (.number row.id) := by
    rw [h.id.get F hnames hdict]
    have hrange := h.idRange
    have hload : Memory.loadSigned (Memory.storeSigned 8 row.id) = row.id :=
      Memory.loadSigned_storeSigned_of_bounds (by norm_num; omega) (by norm_num; omega)
    simp only [objectOfCell, objectOf, hload, held]
  have htime : dict "TIME" = some (.number row.time) := by
    rw [h.time.get F hnames hdict]
    have hrange := h.timeRange
    have hload : Memory.loadSigned (Memory.storeSigned 4 row.time) = row.time :=
      Memory.loadSigned_storeSigned_of_bounds (by norm_num; omega) (by norm_num; omega)
    simp only [objectOfCell, objectOf, hload, held]
  have hhost : dict "HOST" = some (.string row.host) := by
    rw [h.host.get F hnames hdict]
    simp only [objectOfCell, objectOf, stringWithBytes_toUTF8, Option.map_some, assigned, held]
  have hinfo := h.info.get F hnames hdict
  obtain ⟨id, host, info, time⟩ := row
  cases info with
  | none =>
    simp only [objectOfCell, held] at hinfo
    simp only [QueryRow.ofDictionary, hid, hhost, htime, hinfo]
  | some info =>
    simp only [objectOfCell, objectOf, held] at hinfo
    simp only [QueryRow.ofDictionary, hid, hhost, htime, hinfo]

end Row

section Agreement
variable {fields : List MysqlField} {connection : HostRef} {s : Session} {server : Server}

theorem fetchRows_agrees {replies : List (Except MysqlError (List Cell))}
    {rows : List (Except MysqlError (Time × QueryRow))}
    (hnames : (fields.map MysqlField.name).Nodup)
    (hrows : List.Forall₂ (Sends F fields) replies rows) :
    wp (MysqlFetch.fetchRows (some connection) rows) (fun r t => t = s ∧
      Agrees r (replies.mapM (objectsOfReply F connection
        ((fields.map MysqlField.name).zip (fields.map MysqlField.type))))) s := by
  induction hrows with
  | nil => exact ⟨rfl, [], rfl, rfl⟩
  | @cons reply fetched replies rows hsends _ ih =>
    rw [List.mapM_cons]
    cases hsends with
    | failed error => exact ⟨rfl, rfl⟩
    | @row cells time row _ hobjects hcarries =>
      obtain ⟨dict, hdict⟩ := objectsOfRow_ok F hobjects (fun _ => none)
      rw [MysqlFetch.fetchRows, wp_bind, objectsOfReply, hdict, ok_bind]
      refine wp_mono ?_ ih
      rintro r t ⟨rfl, hagrees⟩
      cases r with
      | ok later =>
        obtain ⟨dicts, hdicts, hmap⟩ := hagrees
        refine ⟨rfl, dict :: dicts, by rw [hdicts]; rfl, ?_⟩
        rw [List.map_cons, List.map_cons, hcarries.read F hnames hdict, hmap]
      | error failure =>
        cases failure with
        | mysqlException e =>
          have hfailed : _ = Except.error _ := hagrees
          exact ⟨rfl, by rw [hfailed]; rfl⟩
        | nullDereference => exact hagrees.elim

theorem sends_conforming {replies : List (Except MysqlError (List Cell))}
    {rows : List (Except MysqlError (Time × QueryRow))}
    (hrows : List.Forall₂ (Sends F fields) replies rows) :
    ∀ cells, .ok cells ∈ replies → Conforming fields cells := by
  intro cells hcells
  induction hrows with
  | nil => exact absurd hcells List.not_mem_nil
  | cons hsends _ ih =>
    rcases List.mem_cons.mp hcells with rfl | hcells
    · cases hsends with
      | row hconforms => exact hconforms
    · exact ih hcells

theorem fetch_agrees {library : MysqlLibrary} (hlibrary : Documented library) {call : FetchCall}
    (hanswers : Answers F server call) (command : String) :
    wp (MysqlFetch.fetchWithCommand server command (some call.connection))
      (fun r t => t = { s with issued := s.issued ++ [(some call.connection, command)] } ∧
        Agrees r (fetchWithCommand F library call)) s := by
  obtain ⟨hprepare, hunbound, hbind, hexecute, hplain, ⟨table, htable⟩, hnames, hwide, hrows⟩ :=
    hanswers
  have hcolumns : columnsOf call.useExtendedNames call.fields =
      (call.fields.map MysqlField.name).zip (call.fields.map MysqlField.type) := by
    rw [columnsOf, hplain, fieldNames_plain htable (Or.inl rfl)]
  rw [MysqlFetch.fetchWithCommand, issue, hprepare, hbind, hexecute, hunbound, wp_bind, wp_modify]
  simp only
  cases hprepared : call.prepare with
  | some error =>
    have hraised : fetchWithCommand F library call = .error (.raised (fetchError call.connection
        "perform mysql_stmt_bind_result()" error)) := by
      rw [fetchWithCommand, hprepared]
      rfl
    exact ⟨rfl, hraised⟩
  | none =>
    cases hbound : call.fields.mapM bindField with
    | error e =>
      obtain ⟨code, hcode, rfl⟩ := mapM_bindField_error hbound
      have hraised : fetchWithCommand F library call = .error (.raised
          { name := "No Binding"
            reason := "No binding support for field type " ++ toString code }) := by
        rw [fetchWithCommand, hprepared, bindFields_eq, hbound]
        rfl
      rw [hcode]
      exact ⟨rfl, hraised⟩
    | ok bindings =>
      rw [mapM_bindField_ok hbound, fetchWithCommand_bound F hbound, fetchRows_bound F hlibrary hbound
        hwide (sends_conforming F hrows), hcolumns, hprepared]
      cases call.bind with
      | some error => exact ⟨rfl, rfl⟩
      | none =>
        cases call.execute with
        | some error => exact ⟨rfl, rfl⟩
        | none => exact fetchRows_agrees F hnames hrows

-- A query of 20000 bytes, twice the buffer's; the last column's text is no UTF-8.
theorem fetch_agrees_long :
    let F : Foundation Unit Unit := ⟨fun _ => none, fun _ => none, fun _ => none, true⟩
    let row : QueryRow := { id := 7, host := "web", info := some (List.replicate 20000 97), time := 3 }
    let cells : List Cell := [some (Memory.storeSigned 8 7), some "web".toUTF8.data.toList,
      some (Memory.storeSigned 4 3), some (List.replicate 20000 97), some [255]]
    let call : FetchCall :=
      { connection := 1
        fields := [{ table := "PROCESSLIST", name := "ID", length := 4, type := .longlong },
          { table := "PROCESSLIST", name := "HOST", length := 192, type := .varString },
          { table := "PROCESSLIST", name := "TIME", length := 7, type := .long },
          { table := "PROCESSLIST", name := "INFO", length := 4294967295, type := .blob },
          { table := "PROCESSLIST", name := "STATE", length := 192, type := .varString }]
        replies := [.ok cells] }
    let server : Server := { fetch := [.ok (0, row)] }
    let s : Session := Session.begin (Document.initial
      (Configuration.onePool { active := some 1 } [1] (by decide) (fun _ => 1) (fun _ => 0)) 30 1)
      DetailList.empty
    wp (MysqlFetch.fetchWithCommand server MysqlFetch.processList (some 1))
      (fun r t => t = { s with issued := s.issued ++ [(some 1, MysqlFetch.processList)] } ∧
        Agrees r (fetchWithCommand F copying call)) s := by
  intro F row cells call server s
  have hconforms : Conforming call.fields cells := by
    refine .cons ?_ (.cons ?_ (.cons ?_ (.cons ?_ (.cons ?_ .nil)))) <;> intro bytes hbytes <;>
      obtain rfl := Option.some.inj hbytes
    · exact decide_eq_true (Memory.storeSigned_length 8 7)
    · decide
    · exact decide_eq_true (Memory.storeSigned_length 4 3)
    · rfl
    · rfl
  have hobjects : List.Forall₂ (fun field cell =>
      F.nilRemoves = true ∨ objectOfCell F field.type cell ≠ .nil) call.fields cells :=
    List.forall₂_iff_get.mpr ⟨rfl, fun _ _ _ => Or.inl rfl⟩
  have hcarries : Carries call.fields cells row :=
    { id := ⟨0, _, rfl, rfl, rfl, rfl⟩
      host := ⟨1, _, rfl, rfl, rfl, rfl⟩
      time := ⟨2, _, rfl, rfl, rfl, rfl⟩
      info := ⟨3, _, rfl, rfl, rfl, rfl⟩
      idRange := by decide
      timeRange := by decide }
  have hanswers : Answers F server call :=
    ⟨rfl, by decide, rfl, rfl, rfl, ⟨"PROCESSLIST", by decide⟩, by decide, by decide,
      .cons (.row hconforms hobjects hcarries) .nil⟩
  exact fetch_agrees F copying_documented hanswers MysqlFetch.processList

end Agreement

end DBMonitor.Fetch
