/-
SqlScript/Proofs/Program/Sources.lean

Scripts in files and scripts in memory.

The text of a file has its line ends unified, the text of a script in memory is taken as it is.
Both are cut into the same lines: a carriage return is a line break, and makes one break with a
line feed behind it, so turning either into a line feed moves no line (`lines_unifyLineEnds`).
Other line breaks are left alone.

A file holds a text as the bytes that encode it, or packed (`Stores`).  Decoding inverts encoding,
so a script is loaded alike from a file that stores it and from memory (`load_stored`): the same
program, or the same error of validation.
-/
import SqlScript.Client.Style
import SqlScript.Files.Tree
import SqlScript.Session
import SqlScript.Proofs.Program.RoundTrip
import SqlScript.Proofs.Text.Utf8

namespace SqlScript

open Text

/-! ### Line ends -/

theorem Text.lines_return {cs : List Char} (h : ∀ rest, cs ≠ '\n' :: rest) :
    lines ('\r' :: cs) = [] :: lines cs := by
  rw [lines.eq_def]
  split
  · rename_i heq
    cases heq
  · rename_i rest heq
    exact absurd (List.cons.inj heq).2 (h rest)
  · rename_i heq
    cases heq
    rfl

/-- **Unifying line ends moves no line.** -/
theorem Text.lines_unifyLineEnds (cs : List Char) : lines (unifyLineEnds cs) = lines cs := by
  fun_induction unifyLineEnds cs with
  | case1 => rfl
  | case2 cs ih =>
    rw [lines_newline, ih]
    rfl
  | case3 c cs hpair ih =>
    by_cases hc : c = '\r'
    · subst hc
      rw [if_pos rfl, lines_newline, ih, lines_return]
      rintro rest rfl
      exact hpair rest rfl rfl
    · rw [if_neg hc, lines_of_ne_return hc, lines_of_ne_return hc, ih]

/-! ### Texts in files -/

namespace Files

/-- What a file at a path holds, if it stores a text: the bytes that encode the text, or such
bytes packed, which the suffix of the path tells. -/
inductive Stores (path : Path) (text : String) : Content → Prop
  | plain (suffix : path.suffix ≠ ".gz") : Stores path text (.raw (encodeUtf8 text.toList))
  | packed (suffix : path.suffix = ".gz") {bytes : List UInt8}
      (unpacked : Archive.unpack bytes = .ok (encodeUtf8 text.toList)) :
      Stores path text (.raw bytes)
  | archived (suffix : path.suffix = ".gz") : Stores path text (.packed text.toList)

theorem decode_encodeUtf8 (cs : List Char) : decode (encodeUtf8 cs) = .ok cs := by
  rw [decode, decodeUtf8_encodeUtf8]

/-- A text that is stored is read with its line ends unified. -/
theorem readScript_stored {tree : Tree} {path : Path} {content : Content} {text : String}
    (file : tree.file? path = some content) (stored : Stores path text content) :
    readScript tree path = .ok (String.ofList (unifyLineEnds text.toList)) := by
  rw [readScript, file]
  cases stored with
  | plain suffix => simp only [if_neg suffix, plainText, decode_encodeUtf8]
  | packed suffix unpacked => simp only [if_pos suffix, packedText, unpacked, decode_encodeUtf8]
  | archived suffix => simp only [if_pos suffix, packedText]

end Files

namespace Machine

variable {σ : Type}

/-- Reading a text does not depend on how its lines end. -/
theorem readText_unified (setup : Setup σ) (text source : String) (w : World σ) :
    readText setup (String.ofList (unifyLineEnds text.toList)) source w =
      readText setup text source w := by
  have readings : Program.readings setup.marker (String.ofList (unifyLineEnds text.toList)) =
      Program.readings setup.marker text := by
    rw [Program.readings, String.toList_ofList, lines_unifyLineEnds, Program.readings]
  have program : Program.parse setup.marker (String.ofList (unifyLineEnds text.toList)) source =
      Program.parse setup.marker text source := by
    rw [Program.parse, readings, Program.parse]
  rw [readText, readText, readings, program]

/-- A script that a source has is loaded as its text. -/
theorem load_of_source {setup : Setup σ} {name text : String} (h : setup.source name = .ok text)
    (origin : Option CallSite) (m : Machine) (w : World σ) :
    load setup name origin m w =
      loadText setup text name origin { m with origin := origin <|> m.origin }
        (w.note (.requested name)) := by
  have fetched : setup.source.fetch name = .ok text := by
    rw [Source.fetch, h]
  rw [load, loadText, readScript, fetched]

/-- **Files and memory load the same program.**  A script that a file stores and that is kept in
memory under the same name is loaded alike: as the program of its text, or with the error of that
program. -/
theorem load_stored (setup : Setup σ) {tree : Files.Tree} {root path : Files.Path}
    {content : Files.Content} {scripts : Scripts} {name text : String}
    (found : Files.scriptPath tree root name = .ok path)
    (file : tree.file? path = some content) (stored : Files.Stores path text content)
    (kept : scripts.lookup name = some text) (origin : Option CallSite) (m : Machine)
    (w : World σ) :
    load { setup with source := Files.scripts tree root } name origin m w =
        load { setup with source := scripts.toSource } name origin m w ∧
      load { setup with source := scripts.toSource } name origin m w =
        loadText setup text name origin { m with origin := origin <|> m.origin }
          (w.note (.requested name)) := by
  have inFile : Files.scripts tree root name =
      .ok (String.ofList (unifyLineEnds text.toList)) := by
    rw [Files.scripts, found]
    exact Files.readScript_stored file stored
  have inMemory : scripts.toSource name = .ok text := by
    rw [Scripts.toSource, kept]
  have memory : load { setup with source := scripts.toSource } name origin m w =
      loadText setup text name origin { m with origin := origin <|> m.origin }
        (w.note (.requested name)) := load_of_source inMemory origin m w
  refine ⟨?_, memory⟩
  rw [memory, load_of_source inFile, loadText, loadText, readText_unified]
  rfl

/-- A packed file with carriage returns, alone and before a line feed. -/
def nightBytes : List UInt8 :=
  [0x1f, 0x8b, 0x08, 0x00, 0x00, 0x00, 0x00, 0x00, 0x00, 0x03, 0x01, 0x1d, 0x00,
   0xe2, 0xff, 0x21, 0x20, 0x73, 0x65, 0x74, 0x74, 0x69, 0x6e, 0x67, 0x20, 0x6e,
   0x75, 0x6c, 0x6c, 0x0d, 0x21, 0x20, 0x70, 0x72, 0x6f, 0x63, 0x65, 0x65, 0x64,
   0x20, 0xc3, 0xa9, 0x0d, 0x0a, 0x3b, 0x82, 0xb1, 0x18, 0x1d, 0x00, 0x00, 0x00]

/-- The text of the file. -/
def nightText : String := "! setting null\r! proceed é\r\n"

/-- A tree with the file alone. -/
def nightTree : Files.Tree where
  files := [(["jobs", "night.sql.gz"], .raw nightBytes)]

/-- There is no file without an ending, and none with the first one. -/
theorem nightTree_entries :
    nightTree.entry ⟨"/", ["jobs", "night"]⟩ = .error .absent ∧
      nightTree.entry ⟨"/", ["jobs", "night.sql"]⟩ = .error .absent ∧
      nightTree.entry ⟨"/", ["jobs", "night.sql.gz"]⟩ = .ok (.file (.raw nightBytes)) := by
  refine ⟨?_, ?_, ?_⟩
  all_goals
    rw [Files.Tree.entry, Files.Tree.locate, String.contains_char_eq, if_neg (by decide),
      if_neg (by decide), if_neg (by decide), if_pos (by decide)]
    rfl

theorem nightTree_path :
    Files.scriptPath nightTree ⟨"/", ["jobs"]⟩ "night" = .ok ⟨"/", ["jobs", "night.sql.gz"]⟩ := by
  obtain ⟨bare, first, second⟩ := nightTree_entries
  have path : Files.Path.join ⟨"/", ["jobs"]⟩ (.ofString "night") = ⟨"/", ["jobs", "night"]⟩ := by
    decide
  have suffix : Files.Path.suffix ⟨"/", ["jobs", "night"]⟩ = "" := by decide
  have endings : Files.scriptEndings.map (Files.Path.append ⟨"/", ["jobs", "night"]⟩) =
      [⟨"/", ["jobs", "night.sql"]⟩, ⟨"/", ["jobs", "night.sql.gz"]⟩] := by
    decide
  rw [Files.scriptPath, path]
  simp only [suffix, if_true, endings, Files.firstFile, Files.Tree.isFile, Files.Tree.test, bare,
    first, second]

theorem unpack_nightBytes : Archive.unpack nightBytes = .ok (encodeUtf8 nightText.toList) := by
  have data : (Archive.unpack nightBytes).toOption = some (encodeUtf8 nightText.toList) := by
    decide +kernel
  rcases h : Archive.unpack nightBytes with e | bytes
  · rw [h] at data
    cases data
  · rw [h] at data
    exact congrArg Except.ok (Option.some.inj data)

/-- A database without rows, and no scripts. -/
def nightSetup : Setup Unit where
  client := .ofStyle .qmark fun _ _ s => (.result { rowcount := 0 }, s)
  source := (Scripts.ofList []).toSource

/-- The file, asked for without its endings, and its text in memory. -/
theorem night_load_stored :
    Files.scriptPath nightTree ⟨"/", ["jobs"]⟩ "night" = .ok ⟨"/", ["jobs", "night.sql.gz"]⟩ ∧
      nightTree.file? ⟨"/", ["jobs", "night.sql.gz"]⟩ = some (.raw nightBytes) ∧
      Files.Stores ⟨"/", ["jobs", "night.sql.gz"]⟩ nightText (.raw nightBytes) ∧
      List.lookup "night" [("night", nightText)] = some nightText ∧
      load { nightSetup with source := Files.scripts nightTree ⟨"/", ["jobs"]⟩ } "night" none {}
          ⟨(), []⟩ =
        load { nightSetup with source := Scripts.toSource [("night", nightText)] } "night" none {}
          ⟨(), []⟩ ∧
      (load { nightSetup with source := Files.scripts nightTree ⟨"/", ["jobs"]⟩ } "night" none {}
          ⟨(), []⟩).outcome =
        .done ⟨"night", [⟨.setting, "null", some 1⟩, ⟨.proceed, "é", some 2⟩]⟩ := by
  have file : nightTree.file? ⟨"/", ["jobs", "night.sql.gz"]⟩ = some (.raw nightBytes) := by
    rw [Files.Tree.file?, nightTree_entries.2.2]
  have suffix : Files.Path.suffix ⟨"/", ["jobs", "night.sql.gz"]⟩ = ".gz" := by decide
  have stored : Files.Stores ⟨"/", ["jobs", "night.sql.gz"]⟩ nightText (.raw nightBytes) :=
    .packed suffix unpack_nightBytes
  have kept : List.lookup "night" [("night", nightText)] = some nightText := rfl
  obtain ⟨same, ofText⟩ := load_stored nightSetup nightTree_path file stored kept none {} ⟨(), []⟩
  refine ⟨nightTree_path, file, stored, kept, same, ?_⟩
  rw [same, ofText]
  with_unfolding_all rfl

end Machine

end SqlScript
