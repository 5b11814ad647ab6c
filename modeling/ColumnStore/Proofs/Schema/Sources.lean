import ColumnStore.Client.SchemaReader
import ColumnStore.Proofs.Memory.Borrowing
import ColumnStore.Proofs.Schema.Exactness
import ColumnStore.Proofs.Store.Files
import ColumnStore.Proofs.Value.Typing

/-!
# Where schemas are read from

A schema is read from an index file, from a data file or from the schema file of a folder. On the
way it is taken apart into objects for its columns and their types, and put together from what
these tell. All three sources tell the schema that was filed, in its normal form, and every object
that was handed out is given up again.
-/

set_option autoImplicit false

namespace ColumnStore

/-! ### Normal forms -/

/-- An array column has a type of items in its normal form, and another column has none. -/
theorem Field.normal_eq (field : Field) :
    field.normal = if field.type = .array then .array field.name (field.element.getD .string)
      else .scalar field.name field.type := by
  obtain ⟨name, type, element⟩ := field
  cases type <;> rfl

/-- A column that is well formed is in its normal form. -/
theorem Field.normal_of_isWellFormed {field : Field} (h : field.IsWellFormed) :
    field.normal = field := by
  obtain ⟨name, type, element⟩ := field
  cases type with
  | array =>
    obtain ⟨items, rfl, -⟩ := h
    rfl
  | _ =>
    obtain rfl : element = none := h
    rfl

theorem Schema.normal_of_isWellFormed {schema : Schema} (h : schema.IsWellFormed) :
    schema.normal = schema := by
  have hfields : schema.fields.map Field.normal = schema.fields :=
    (List.map_congr_left fun field hmem ↦ Field.normal_of_isWellFormed (h.2.2 field hmem)).trans
      (List.map_id _)
  rw [Schema.normal, hfields]

/-- The normal form has the columns of the schema, by name and in order. -/
theorem Schema.names_normal (schema : Schema) : schema.normal.names = schema.names := by
  have hname : Field.name ∘ Field.normal = Field.name := by
    ext field
    by_cases harray : field.type = .array <;>
      simp [Field.normal_eq, harray, Field.array, Field.scalar]
  rw [Schema.names, Schema.normal, List.map_map, hname, Schema.names]

namespace Memory

variable {memory : Memory} {handle : Nat} {operation : Operation}

/-! ### Reading a column -/

/-- Asking an object for a text only looks. -/
theorem borrows_text {content : String} (hrunning : memory.isShutDown = false)
    (hkind : operation.method.kind = .onObject)
    (hperform : perform operation handle [] (memory.counting operation.method) =
      .ofExcept (memory.counting operation.method) (.ok (.text (some content)))) :
    Borrows (SchemaReader.text handle operation) memory content := by
  have hlooks : Looks (SchemaReader.text handle operation) memory (.ok content) := by
    refine (looks_call hrunning hkind hperform).bind fun after _ ↦ ?_
    exact (looks_pure (some content)).bind fun last _ ↦ looks_pure content
  exact hlooks.borrows

/-- Asking an object for a new one. -/
theorem runs_object {object : ManagedObject} (hrunning : memory.isShutDown = false)
    (hkind : operation.method.kind = .onObject)
    (hperform : perform operation handle [] (memory.counting operation.method) =
      (memory.counting operation.method).returnNew object) :
    Client.Runs backend (SchemaReader.object handle operation) memory (.ok memory.nextHandle)
      ((memory.counting operation.method).pin object) := by
  refine (runs_call hrunning hkind (congrArg Reply.outcome hperform)
    (congrArg Reply.state hperform)).bind ?_
  exact Client.runs_pure memory.nextHandle

/-- Asking an object for a new one, working with that and giving it up. -/
theorem borrows_object {α : Type} {object : ManagedObject} {use : Handle → Client Memory α}
    {a : α} (hrunning : memory.isShutDown = false) (hkind : operation.method.kind = .onObject)
    (hperform : perform operation handle [] (memory.counting operation.method) =
      (memory.counting operation.method).returnNew object)
    (huse : ∀ middle, memory.Restores middle →
      Borrows (use middle.nextHandle) (middle.pin object) a) :
    Borrows (SchemaReader.object handle operation >>= fun other ↦
      Client.holding other (use other)) memory a := by
  have hcounted := restores_counting memory operation.method
  refine (runs_object hrunning hkind hperform).bind ?_
  refine (@Borrows.holding (memory.counting operation.method) α _ a object hrunning
    (huse _ hcounted)).mono ?_
  rintro result after ⟨hresult, hafter⟩
  exact ⟨hresult, hcounted.trans hafter⟩

/-- The name of a type is read back as the type. -/
theorem borrows_typeOf {type : DataType} {element : Option DataType}
    (h : memory.Holds handle (.type type element)) :
    Borrows (SchemaReader.typeOf handle) memory type := by
  have hperform : perform .typeName handle [] (memory.counting Operation.typeName.method) =
      .ofExcept (memory.counting Operation.typeName.method) (.ok (.text (some type.name))) := by
    change Reply.ofExcept _ ((Memory.type _ handle "getName").map _) = _
    rw [(@type_eq_ok_iff _ _ _ (type, element)).mpr (h.counting _).object]
    rfl
  refine (borrows_text h.running rfl hperform).bind fun after _ ↦ ?_
  rw [DataType.read_name]
  exact borrows_pure type

/-- A column is read in its normal form. -/
theorem borrows_field {field : Field} (h : memory.Holds handle (.field field)) :
    Borrows (SchemaReader.field handle) memory field.normal := by
  have hname : perform .fieldName handle [] (memory.counting Operation.fieldName.method) =
      .ofExcept (memory.counting Operation.fieldName.method) (.ok (.text (some field.name))) := by
    change Reply.ofExcept _ ((Memory.field _ handle "getFieldName").map _) = _
    rw [field_eq_ok_iff.mpr (h.counting _).object]
    rfl
  refine (borrows_text h.running rfl hname).bind fun named hnamed ↦ ?_
  have hheld := hnamed.holds h
  have htype : perform .fieldType handle [] (named.counting Operation.fieldType.method) =
      (named.counting Operation.fieldType.method).returnNew (.type field.type field.element) := by
    change fieldType handle _ = _
    unfold fieldType
    rw [field_eq_ok_iff.mpr (hheld.counting _).object]
  refine borrows_object hheld.running rfl htype fun middle hmiddle ↦ ?_
  have hholds := holds_pin (hmiddle.running.trans hheld.running) (.type field.type field.element)
  refine (borrows_typeOf hholds).bind fun typed htyped ↦ ?_
  have hkept := htyped.holds hholds
  rw [Field.normal_eq]
  by_cases harray : field.type = .array
  · rw [if_neg (not_not.mpr harray), if_pos harray]
    have helement : perform .elementType middle.nextHandle []
        (typed.counting Operation.elementType.method) =
          (typed.counting Operation.elementType.method).returnNew
            (.type (field.element.getD .string) none) := by
      change elementType middle.nextHandle _ = _
      unfold elementType
      rw [(@type_eq_ok_iff _ _ _ (field.type, field.element)).mpr (hkept.counting _).object]
      exact if_pos harray
    refine borrows_object hkept.running rfl helement fun last hlast ↦ ?_
    have hitems := holds_pin (hlast.running.trans hkept.running)
      (.type (field.element.getD .string) none)
    exact (borrows_typeOf hitems).bind fun _ _ ↦ borrows_pure _
  · rw [if_pos harray, if_neg harray]
    exact borrows_pure _

/-! ### Reading a schema -/

/-- The columns of a schema are read in order. -/
theorem borrows_fields (hrunning : memory.isShutDown = false) (fields : List Field) :
    Borrows ((List.range' memory.nextHandle fields.length).mapM SchemaReader.field)
      (memory.pinAll (fields.map .field)) (fields.map Field.normal) := by
  have hheld := forall₂_holds_pinAll hrunning (fields.map .field)
  rw [List.length_map, List.forall₂_map_right_iff] at hheld
  refine borrows_mapM ?_ _ (.refl _)
  rw [List.forall₂_map_right_iff]
  exact hheld.imp fun handle field hholds after hafter ↦ borrows_field (hafter.holds hholds)

/-- The columns behind a schema are taken, read and given up. -/
theorem borrows_columns {schema : Schema} (h : memory.Holds handle (.schema schema))
    (activity path : String) :
    Borrows (do
      let returned ← Client.call handle .schemaFields []
      let handles ← Client.expect activity .other
        (returned.bind (Returned.toObjects Operation.schemaFields.method))
      Client.holdingAll handles do
        match ← Client.attempt (handles.mapM SchemaReader.field) with
        | .error error => Client.refuse (.context activity error)
        | .ok fields =>
          Client.report ⟨.debug, "schema read",
            [("path", path), ("columns", toString fields.length)]⟩
          pure ⟨fields⟩) memory schema.normal := by
  have hcounted := restores_counting memory Operation.schemaFields.method
  have hcall : perform .schemaFields handle [] (memory.counting Operation.schemaFields.method) =
      (memory.counting Operation.schemaFields.method).returnAll (schema.fields.map .field) := by
    change schemaFields handle _ = _
    unfold schemaFields
    rw [schema_eq_ok_iff.mpr (hcounted.holds h).object]
  refine (runs_call h.running rfl (congrArg Reply.outcome hcall)
    (congrArg Reply.state hcall)).bind ?_
  refine (Client.runs_expect_ok _ _ _).bind ?_
  refine Client.Ends.mono (@Borrows.holdingAll (memory.counting Operation.schemaFields.method) _ _
    schema.normal (schema.fields.map .field) h.running ?_) ?_
  · rw [List.length_map]
    refine (borrows_fields (hcounted.holds h).running schema.fields).attempt.bind fun read _ ↦ ?_
    exact (Client.runs_report _).bind (borrows_pure _)
  · rintro result after ⟨hresult, hafter⟩
    exact ⟨hresult, hcounted.trans hafter⟩

/-- The schema of the file that an operation finds is read in its normal form. -/
theorem borrows_read {find : Memory → String → Except CallError StoredFile} {path : String}
    {file : StoredFile} (method : String) (hrunning : memory.isShutDown = false)
    (hkind : operation.method.kind = .onClass)
    (hperform : ∀ memory, perform operation 0 [.text path] memory =
      schemaOf find method [.text path] memory)
    (hfind : find (memory.counting operation.method) path = .ok file) :
    Borrows (SchemaReader.read operation path) memory file.schema.normal := by
  have hcounted := restores_counting memory operation.method
  have hcall : perform operation 0 [.text path] (memory.counting operation.method) =
      (memory.counting operation.method).returnNew (.schema file.schema) := by
    rw [hperform, schemaOf, show Argument.textAt [.text path] 0 method = .ok path from rfl]
    dsimp only
    rw [hfind]
  refine (runs_callStatic hrunning hkind (congrArg Reply.outcome hcall)
    (congrArg Reply.state hcall)).bind ?_
  refine (Client.runs_expect_ok _ _ memory.nextHandle).bind ?_
  refine Client.Ends.mono (@Borrows.holding (memory.counting operation.method) _ _
    file.schema.normal (.schema file.schema) hrunning ?_) ?_
  · have hholds := holds_pin (hcounted.running.trans hrunning) (.schema file.schema)
    exact borrows_columns hholds _ _
  · rintro result after ⟨hresult, hafter⟩
    exact ⟨hresult, hcounted.trans hafter⟩

end Memory

/-! ### Finding the file -/

namespace Store

variable {store : Store} {path : String} {number : Nat} {commit : Commit}

/-- The data files of a folder by their paths. -/
theorem filePaths_data (h : (store.commitsTo path)[number]? = some commit) :
    (store.filePaths path .data)[number]? =
      some (folderOf path ++ "/" ++ commit.dataName number) := by
  have hfile : (store.dataFiles path)[number]? = some (commit.dataFile number) := by
    simp [dataFiles_eq, h]
  show ((store.dataFiles path).map _)[number]? = _
  rw [List.getElem?_map, hfile]
  rfl

/-- The index files of a folder are those of the commits to it. -/
theorem indexFiles_eq (store : Store) (path : String) :
    ((store.files path).filter fun file ↦ file.kind == .index) =
      (store.commitsTo path).map Commit.indexFile := by
  have hfiltered : ((store.files path).filter fun file ↦ file.kind == .index) =
      (store.commitsTo path).zipIdx.map fun entry ↦ entry.1.indexFile := by
    rw [files_eq, filesFrom, List.filter_flatMap, List.map_eq_flatMap]
    rfl
  rw [hfiltered]
  show (store.commitsTo path).zipIdx.map (Commit.indexFile ∘ Prod.fst) = _
  rw [← List.map_map, List.zipIdx_map_fst]

theorem filePaths_index (h : (store.commitsTo path)[number]? = some commit) :
    (store.filePaths path .index)[number]? = some (folderOf path ++ "/" ++ commit.indexName) := by
  rw [filePaths, indexFiles_eq, List.getElem?_map, List.getElem?_map, h]
  rfl

theorem WellFiled.congr {other : Store} (h : store.WellFiled)
    (hcommits : other.commits = store.commits) : other.WellFiled := by
  constructor
  · rw [hcommits]
    exact h.folders
  · rw [hcommits]
    exact h.identifiers
  · rw [hcommits]
    exact h.distinct

end Store

/-- A text finishes with what it was finished with. -/
theorem Text.finishesWith_append (start tail : String) :
    finishesWith tail (start ++ tail) = true := by
  simp [finishesWith]

namespace Memory

variable {memory : Memory} {path : String} {number : Nat} {commit : Commit}

theorem dataFile_of_commit (hfiled : memory.store.WellFiled)
    (h : (memory.store.commitsTo path)[number]? = some commit) :
    memory.dataFile (Store.folderOf path ++ "/" ++ commit.dataName number) =
      .ok (commit.dataFile number) := by
  have hmem : commit.dataFile number ∈ memory.store.files path :=
    Store.mem_files_iff.mpr ⟨commit, number, h, .inl rfl⟩
  have hfound := hfiled.file?_of_mem hmem
  have htail : Text.finishesWith ".carbondata"
      (Store.folderOf path ++ "/" ++ commit.dataName number) = true := by
    rw [Commit.dataName, ← String.append_assoc]
    exact Text.finishesWith_append _ _
  simp only [dataFile, htail, if_true]
  rw [show commit.dataName number = (commit.dataFile number).name from rfl, hfound]

theorem indexFile_of_commit (hfiled : memory.store.WellFiled)
    (h : (memory.store.commitsTo path)[number]? = some commit) :
    memory.indexFile (Store.folderOf path ++ "/" ++ commit.indexName) = .ok commit.indexFile := by
  have hmem : commit.indexFile ∈ memory.store.files path :=
    Store.mem_files_iff.mpr ⟨commit, number, h, .inr rfl⟩
  have hfound := hfiled.file?_of_mem hmem
  have htail : Text.finishesWith ".carbonindex"
      (Store.folderOf path ++ "/" ++ commit.indexName) = true := by
    rw [Commit.indexName, ← String.append_assoc]
    exact Text.finishesWith_append _ _
  simp only [indexFile, htail, Bool.not_true, Bool.false_eq_true, if_false]
  rw [show commit.indexName = commit.indexFile.name from rfl, hfound]

/-- The schema file of a folder stands for its first data file. -/
theorem schemaFile_of_commit (h : memory.store.firstCommit? path = some commit) :
    memory.schemaFile (path ++ schemaFileTail) = .ok (commit.dataFile 0) := by
  have hfolder : String.ofList ((path ++ schemaFileTail).toList.take
      ((path ++ schemaFileTail).length - schemaFileTail.length)) = path := by
    rw [String.length_append, Nat.add_sub_cancel, String.toList_append, ← String.length_toList,
      List.take_left, String.ofList_toList]
  have hfirst : memory.store.firstDataFile? path = some (commit.dataFile 0) := by
    rw [Store.firstDataFile?, ← List.head?_filter]
    show (memory.store.dataFiles path).head? = _
    rw [Store.head?_dataFiles, h]
    rfl
  unfold schemaFile
  rw [hfolder, Text.finishesWith_append]
  simp [hfirst]

/-! ### The three sources -/

/-- Reading ends with the schema and leaves all objects as they are, and as many. -/
def TellsSchema (action : Client Memory Schema) (memory : Memory) (schema : Schema) : Prop :=
  Client.Ends backend action memory fun result after ↦
    result = .ok schema ∧ memory.Restores after ∧ after.liveObjects = memory.liveObjects

theorem Borrows.tellsSchema {action : Client Memory Schema} {schema : Schema}
    (h : Borrows action memory schema) : TellsSchema action memory schema :=
  h.mono fun _ _ hended ↦ ⟨hended.1, hended.2, hended.2.liveObjects_eq⟩

/-- Rows were filed under any paths, with identifiers that are all different. The data file and the
index file of each filing tell its schema, and the schema file of a folder tells the schema that was
filed there first: the columns by name and in order, where an array column without a type of items
holds text and no other column has one. A schema that was read from a text is told as it is. -/
theorem schema_sources_agree {filings : List Filing} (hrunning : memory.isShutDown = false)
    (hids : ∀ filing ∈ filings, Commit.IsIdentifier filing.id)
    (hdistinct : (filings.map Filing.id).Nodup)
    (hcommits : memory.store.commits = (Store.empty.fileAll filings).commits)
    {filing : Filing} (hfiling : (Filing.under path filings)[number]? = some filing) :
    (∃ dataPath, (memory.store.filePaths path .data)[number]? = some dataPath ∧
      TellsSchema (SchemaReader.inDataFile dataPath) memory filing.schema.normal) ∧
    (∃ indexPath, (memory.store.filePaths path .index)[number]? = some indexPath ∧
      TellsSchema (SchemaReader.inIndexFile indexPath) memory filing.schema.normal) ∧
    (∃ first, (Filing.under path filings).head? = some first ∧
      TellsSchema (SchemaReader.inSchemaFile (path ++ "/Metadata/schema")) memory
        first.schema.normal) ∧
    filing.schema.normal.names = filing.schema.names ∧
    filing.schema.normal.fields = filing.schema.fields.map (fun field ↦
      if field.type = .array then .array field.name (field.element.getD .string)
      else .scalar field.name field.type) ∧
    ∀ text, Schema.read text = .ok filing.schema → filing.schema.normal = filing.schema := by
  have hfiled : memory.store.WellFiled :=
    (Store.wellFiled_empty.fileAll hids hdistinct).congr hcommits
  have hto : memory.store.commitsTo path = (Filing.under path filings).map Filing.commit := by
    rw [← Store.commitsTo_fileAll, Store.commitsTo, hcommits, Store.commitsTo]
  have hcommit : (memory.store.commitsTo path)[number]? = some filing.commit := by
    rw [hto, List.getElem?_map, hfiling]
    rfl
  refine ⟨⟨_, Store.filePaths_data hcommit, ?_⟩, ⟨_, Store.filePaths_index hcommit, ?_⟩, ?_,
    Schema.names_normal _, ?_, ?_⟩
  · have hfind := @dataFile_of_commit (memory.counting Operation.schemaOfDataFile.method) path
      number filing.commit (hfiled.congr rfl) hcommit
    exact (borrows_read "readSchemaInDataFile" hrunning rfl (fun _ ↦ rfl) hfind).tellsSchema
  · have hfind := @indexFile_of_commit (memory.counting Operation.schemaOfIndexFile.method) path
      number filing.commit (hfiled.congr rfl) hcommit
    exact (borrows_read "readSchemaInIndexFile" hrunning rfl (fun _ ↦ rfl) hfind).tellsSchema
  · obtain ⟨first, hfirst⟩ : ∃ first, (Filing.under path filings).head? = some first := by
      rw [← Option.isSome_iff_exists, List.isSome_head?]
      exact List.ne_nil_of_mem (List.mem_of_getElem? hfiling)
    have hfirstCommit : memory.store.firstCommit? path = some first.commit := by
      rw [Store.firstCommit?, hto, List.head?_map, hfirst]
      rfl
    have hfind := @schemaFile_of_commit (memory.counting Operation.schemaOfSchemaFile.method) path
      first.commit hfirstCommit
    refine ⟨first, hfirst, ?_⟩
    exact (borrows_read "readSchemaInSchemaFile" hrunning rfl (fun _ ↦ rfl) hfind).tellsSchema
  · exact List.map_congr_left fun field _ ↦ field.normal_eq
  · intro text hread
    exact Schema.normal_of_isWellFormed (Schema.isWellFormed_of_read hread)

/-- A column of arrays without a type of items, and a column with one that does not hold arrays. -/
def looseFiling : Filing :=
  ⟨"t/", "", ⟨[⟨"tags", .array, none⟩, ⟨"n", .int, some .long⟩]⟩, [], "first"⟩

/-- A filing to the same folder. -/
def arrayFiling : Filing :=
  ⟨"t", "", ⟨[⟨"marks", .array, some .double⟩]⟩, [], "second"⟩

/-- The store commits both and makes the identifiers. -/
theorem schema_sources_agree_on_two_commits :
    let memory := start (Store.empty.commitAll [looseFiling, arrayFiling])
    let filings := Filing.numbered 0 [looseFiling, arrayFiling]
    (memory.isShutDown = false ∧
      (∀ filing ∈ filings, Commit.IsIdentifier filing.id) ∧
      (filings.map Filing.id).Nodup ∧
      memory.store.commits = (Store.empty.fileAll filings).commits ∧
      (Filing.under "t" filings)[0]? = some { looseFiling with id := Commit.idOf 0 }) ∧
    ∃ dataPath, (memory.store.filePaths "t" .data)[0]? = some dataPath ∧
      TellsSchema (SchemaReader.inDataFile dataPath) memory
        ⟨[.array "tags" .string, .scalar "n" .int]⟩ := by
  intro memory filings
  have hids : ∀ filing ∈ filings, Commit.IsIdentifier filing.id :=
    fun _ hmem ↦ Filing.isIdentifier_of_mem_numbered hmem
  have hdistinct : (filings.map Filing.id).Nodup := Filing.nodup_ids_numbered 0 _
  have hcommits : memory.store.commits = (Store.empty.fileAll filings).commits :=
    congrArg Store.commits (Store.commitAll_eq_fileAll Store.empty [looseFiling, arrayFiling])
  have hfiling : (Filing.under "t" filings)[0]? =
      some { looseFiling with id := Commit.idOf 0 } := rfl
  obtain ⟨hdata, -⟩ := schema_sources_agree rfl hids hdistinct hcommits hfiling
  exact ⟨⟨rfl, hids, hdistinct, hcommits, hfiling⟩, hdata⟩

end Memory

end ColumnStore
