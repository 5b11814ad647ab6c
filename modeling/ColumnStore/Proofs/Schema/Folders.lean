import ColumnStore.Proofs.Reader.Opening
import ColumnStore.Proofs.Schema.Sources

/-!
# Looking into a folder

A folder with a table tells the schema and the writer of its first data file, unless its name ends
like that of a data file: then the path is taken for that of a file, and where there is no such file
nothing is found. A slash behind the path makes it a folder again. Readers open every folder by any
of its names.
-/

set_option autoImplicit false

namespace ColumnStore

/-- A folder with a data file has a table, with the schema of the first data file. -/
theorem Store.table?_of_firstDataFile? {store : Store} {path : String} {file : StoredFile}
    (h : store.firstDataFile? path = some file) :
    store.table? path = some (file.schema, store.rows path) := by
  have hhead : (store.dataFiles path).head? = some file := by
    rw [dataFiles, List.head?_filter]
    exact h
  have htable := store.table?_eq_dataFiles path
  rw [hhead] at htable
  rw [rows, htable]
  rfl

namespace Memory

variable {memory : Memory} {path : String} {file : StoredFile} {operation : Operation}
  {error : CallError}

/-! ### Finding the data file -/

theorem dataFile_of_folder (htail : Text.finishesWith ".carbondata" path = false)
    (hfirst : memory.store.firstDataFile? path = some file) : memory.dataFile path = .ok file := by
  simp [dataFile, htail, hfirst]

theorem dataFile_of_absent (htail : Text.finishesWith ".carbondata" path = true)
    (hfile : memory.store.file? path = none) :
    memory.dataFile path = .error (.fileNotFound (path ++ " (no carbondata file)")) := by
  simp [dataFile, htail, hfile]

/-! ### Asking for it -/

/-- A call on a class that only looks. -/
theorem looks_callStatic {arguments : List Argument} {found : Except CallError Returned}
    (hrunning : memory.isShutDown = false) (hkind : operation.method.kind = .onClass)
    (hperform : perform operation 0 arguments (memory.counting operation.method) =
      .ofExcept (memory.counting operation.method) found) :
    Looks (Client.callStatic operation arguments) memory (.ok found) := by
  have hends := runs_callStatic hrunning hkind (congrArg Reply.outcome hperform)
    (congrArg Reply.state hperform)
  have hcounted := recounts_counting memory operation.method
  cases found <;> exact looks_of_runs hends hcounted

theorem perform_versionDetails (memory : Memory) (path : String) :
    perform .versionDetails 0 [.text path] memory = .ofExcept memory
      ((memory.dataFile path).map fun file ↦
        .text (some (file.writtenBy ++ " in version: " ++ file.version))) := by
  change Reply.ofExcept _ (versionDetails [.text path] memory) = _
  rw [versionDetails, show Argument.textAt [.text path] 0 "getVersionDetails" = .ok path from rfl]
  change Reply.ofExcept _ (memory.dataFile path >>= _) = _
  cases memory.dataFile path <;> rfl

/-- The writer and the version of the data file that is found are told. -/
theorem looks_versionDetails (hrunning : memory.isShutDown = false)
    (hfound : (memory.counting Operation.versionDetails.method).dataFile path = .ok file) :
    Looks (SchemaReader.versionDetails path) memory
      (.ok (file.writtenBy ++ " in version: " ++ file.version)) := by
  refine (looks_callStatic hrunning rfl (perform_versionDetails _ path)).bind fun after _ ↦ ?_
  rw [hfound]
  exact (looks_pure (some _)).bind fun last _ ↦ looks_pure _

/-- Where no data file is found, the error says so. -/
theorem looks_versionDetails_error (hrunning : memory.isShutDown = false)
    (hfound : (memory.counting Operation.versionDetails.method).dataFile path = .error error) :
    Looks (SchemaReader.versionDetails path) memory
      (.error (.error (.ofCall ("getVersionDetails(" ++ path ++ ")") .other error))) := by
  refine (looks_callStatic hrunning rfl (perform_versionDetails _ path)).bind fun after _ ↦ ?_
  rw [hfound]
  exact (looks_refuse _).bind_error

/-- Where no file is found, no schema is read, and the error says why. -/
theorem looks_read_error {find : Memory → String → Except CallError StoredFile} (method : String)
    (hrunning : memory.isShutDown = false) (hkind : operation.method.kind = .onClass)
    (hperform : ∀ memory, perform operation 0 [.text path] memory =
      schemaOf find method [.text path] memory)
    (hfind : find (memory.counting operation.method) path = .error error) :
    Looks (SchemaReader.read operation path) memory
      (.error (.error (.ofCall (operation.method.name ++ "(" ++ path ++ ")") .other error))) := by
  have hcall : perform operation 0 [.text path] (memory.counting operation.method) =
      .ofExcept (memory.counting operation.method) (.error error) := by
    rw [hperform, schemaOf, show Argument.textAt [.text path] 0 method = .ok path from rfl]
    dsimp only
    rw [hfind]
    rfl
  refine (looks_callStatic hrunning hkind hcall).bind fun after _ ↦ ?_
  exact (looks_refuse _).bind_error

/-! ### Folders -/

/-- A folder has a data file, and no file has its path. By a path that does not end like the name of
a data file the folder tells the schema of its first data file, and who wrote it. By another path it
is not found. A reader of the whole table is opened either way, if the folder is a local one. -/
theorem folders_tell_first_file (hrunning : memory.isShutDown = false)
    (hfirst : memory.store.firstDataFile? path = some file)
    (hfile : memory.store.file? path = none) :
    (Text.finishesWith ".carbondata" path = false →
      TellsSchema (SchemaReader.inDataFile path) memory file.schema.normal ∧
        Looks (SchemaReader.versionDetails path) memory
          (.ok (file.writtenBy ++ " in version: " ++ file.version))) ∧
    (Text.finishesWith ".carbondata" path = true →
      Looks (SchemaReader.inDataFile path) memory
          (.error (.error (.managed ("readSchemaInDataFile(" ++ path ++ ")")
            "java.io.FileNotFoundException" (path ++ " (no carbondata file)")))) ∧
        Looks (SchemaReader.versionDetails path) memory
          (.error (.error (.managed ("getVersionDetails(" ++ path ++ ")")
            "java.io.FileNotFoundException" (path ++ " (no carbondata file)"))))) ∧
    (isRemote path = false → ∀ options,
      Client.Ends backend (Scenario.openReader path options) memory fun result after ↦
        ∃ reader, result = .ok reader ∧ reader.closed = false ∧ memory.Lends reader.handle
          (.reader ⟨file.schema, memory.store.rows path, false⟩) after) := by
  refine ⟨fun htail ↦ ⟨?_, ?_⟩, fun htail ↦ ⟨?_, ?_⟩, fun hlocal options ↦ ?_⟩
  · have hfound := @dataFile_of_folder (memory.counting Operation.schemaOfDataFile.method) path file
      htail hfirst
    exact (borrows_read "readSchemaInDataFile" hrunning rfl (fun _ ↦ rfl) hfound).tellsSchema
  · exact looks_versionDetails hrunning (dataFile_of_folder htail hfirst)
  · have habsent := @dataFile_of_absent (memory.counting Operation.schemaOfDataFile.method) path
      htail hfile
    exact looks_read_error "readSchemaInDataFile" hrunning rfl (fun _ ↦ rfl) habsent
  · exact looks_versionDetails_error hrunning (dataFile_of_absent htail hfile)
  · exact ends_openReader hrunning hlocal (Store.table?_of_firstDataFile? hfirst) options

/-- A commit to a folder whose name ends like that of a data file. -/
def misnamedCommit : Commit :=
  ⟨"t.carbondata", "0a", ⟨[.scalar "n" .int]⟩, [[.int 1]], "w"⟩

/-- A backend with this commit and nothing else. -/
def misnamed : Memory := start ⟨[misnamedCommit], [], []⟩

/-- A slash behind the path makes a folder of it. -/
theorem folders_tell_first_file_before_slash :
    (misnamed.isShutDown = false ∧
      misnamed.store.firstDataFile? "t.carbondata/" = some (misnamedCommit.dataFile 0) ∧
      misnamed.store.file? "t.carbondata/" = none) ∧
    Text.finishesWith ".carbondata" "t.carbondata/" = false ∧
    TellsSchema (SchemaReader.inDataFile "t.carbondata/") misnamed misnamedCommit.schema ∧
    Looks (SchemaReader.versionDetails "t.carbondata/") misnamed (.ok "w in version: 2.0.0") := by
  have hfirst : misnamed.store.firstDataFile? "t.carbondata/" =
      some (misnamedCommit.dataFile 0) := rfl
  have hfile : misnamed.store.file? "t.carbondata/" = none := rfl
  have htail : Text.finishesWith ".carbondata" "t.carbondata/" = false := by
    decide +kernel
  obtain ⟨htells, hversion⟩ := (folders_tell_first_file rfl hfirst hfile).1 htail
  exact ⟨⟨rfl, hfirst, hfile⟩, htail, htells, hversion⟩

/-- Without it the folder is taken for a file, which is not there. -/
theorem folder_named_like_file_not_found :
    misnamed.store.firstDataFile? "t.carbondata" = some (misnamedCommit.dataFile 0) ∧
    misnamed.store.file? "t.carbondata" = none ∧
    (¬ ∃ schema, TellsSchema (SchemaReader.inDataFile "t.carbondata") misnamed schema) ∧
    ¬ ∃ details, Looks (SchemaReader.versionDetails "t.carbondata") misnamed (.ok details) := by
  have hfile : misnamed.store.file? "t.carbondata" = none := rfl
  have habsent : ∀ method, (misnamed.counting method).dataFile "t.carbondata" =
      .error (.fileNotFound "t.carbondata (no carbondata file)") :=
    fun _ ↦ dataFile_of_absent (by decide +kernel) hfile
  refine ⟨rfl, hfile, ?_, ?_⟩
  · rintro ⟨schema, htells⟩
    have hrefused : Looks (SchemaReader.inDataFile "t.carbondata") misnamed _ :=
      looks_read_error "readSchemaInDataFile" rfl rfl (fun _ ↦ rfl) (habsent _)
    have hboth := (hrefused.and htells) (.empty .debug)
    exact absurd (hboth.1.1.symm.trans hboth.2.1) nofun
  · rintro ⟨details, htold⟩
    have hrefused : Looks (SchemaReader.versionDetails "t.carbondata") misnamed _ :=
      looks_versionDetails_error rfl (habsent _)
    have hboth := (hrefused.and htold) (.empty .debug)
    exact absurd (hboth.1.1.symm.trans hboth.2.1) nofun

end Memory

end ColumnStore
