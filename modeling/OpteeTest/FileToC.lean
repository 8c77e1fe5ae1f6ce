import OpteeTest.CTokens

/-! # A file as a C array

`file_to_c.py` writes the bytes of a file as the initializer of an array, with a zero behind them
that the constant for the size leaves out. The script is read as Python 2, where a file is read as
bytes. -/
namespace FileToC

open CTokens

def format02x (x : UInt8) : Text :=
  [Nat.digitChar (x.toNat / 16), Nat.digitChar (x.toNat % 16)]

def writeBytes : ℕ → List UInt8 → Text
  | _, [] => []
  | i, x :: xs =>
    "0x".toList ++ format02x x ++ ",".toList ++
      (if (i + 1) % 8 = 0 then "\n".toList else " ".toList) ++ writeBytes (i + 1) xs

def writeHead : Text :=
  "/* automatically generated */\n".toList ++ "#include <stdint.h>\n".toList ++
    "#include <stddef.h>\n\n".toList

def writeName (name : Text) : Text := "const uint8_t ".toList ++ name ++ "[] = \x7b\n".toList

def writeSize (name : Text) : Text :=
  "const size_t ".toList ++ name ++ "_size = sizeof(".toList ++ name ++ ") - 1;\n".toList

def fileToC (name : Text) (data : List UInt8) : Text :=
  writeHead ++ writeName name ++ writeBytes 0 data ++ "'\\0'\x7d;\n".toList ++ writeSize name

/-- A compiler's view of the text: the array with its bytes, and the constant with its value. -/
structure CFile where
  name : Text
  bytes : List UInt8
  sizeName : Text
  size : ℕ
  deriving DecidableEq, Repr

def includeTokens : List Token :=
  [.mark '#', word "include", .mark '<', word "stdint", .mark '.', word "h", .mark '>', .mark '#',
    word "include", .mark '<', word "stddef", .mark '.', word "h", .mark '>']

def nulTokens : List Token :=
  [.mark '\'', .mark '\\', word "0", .mark '\'', .mark '\x7d', .mark ';']

def readFile (text : Text) : Option CFile := do
  let ts ← expect includeTokens (tokens text)
  let ts ← expect [word "const", word "uint8_t"] ts
  let (name, ts) ← readWord ts
  let ts ← expect [.mark '[', .mark ']', .mark '=', .mark '\x7b'] ts
  let bytes := (readElements ts).1 ++ [0]
  let ts ← expect nulTokens (readElements ts).2
  let ts ← expect [word "const", word "size_t"] ts
  let (sizeName, ts) ← readWord ts
  let ts ← expect [.mark '=', word "sizeof", .mark '(', .word name, .mark ')', .mark '-',
    word "1", .mark ';'] ts
  if ts = [] then some ⟨name, bytes, sizeName, bytes.length - 1⟩ else none

def elementTokens (x : UInt8) : List Token :=
  [byteToken (Nat.digitChar (x.toNat / 16)) (Nat.digitChar (x.toNat % 16)), .mark ',']

theorem writeBytes_scans (i : ℕ) (data : List UInt8) :
    Scans (writeBytes i data) (data.flatMap elementTokens) := by
  induction data generalizing i with
  | nil => exact scans_nil
  | cons x xs ih =>
    have helement : Scans ("0x".toList ++ format02x x ++ ",".toList) (elementTokens x) :=
      scans_element (hexByte_digits x)
    have hblank : Scans (if (i + 1) % 8 = 0 then "\n".toList else " ".toList) [] := by
      split
      · rfl
      · rfl
    have happ := (helement.append hblank).append (ih (i + 1))
    rwa [List.append_nil] at happ

theorem readElements_data (data : List UInt8) {ts : List Token} (h : readElements ts = ([], ts)) :
    readElements (data.flatMap elementTokens ++ ts) = (data, ts) := by
  induction data with
  | nil => exact h
  | cons x xs ih =>
    have hcons : (x :: xs).flatMap elementTokens ++ ts =
        byteToken (Nat.digitChar (x.toNat / 16)) (Nat.digitChar (x.toNat % 16)) ::
          .mark ',' :: (xs.flatMap elementTokens ++ ts) := rfl
    rw [hcons, readElements_cons (hexByte_digits x), ih]

def nameTokens (name : Text) : List Token :=
  [word "const", word "uint8_t", .word name, .mark '[', .mark ']', .mark '=', .mark '\x7b']

def sizeTokens (name : Text) : List Token :=
  [word "const", word "size_t", .word (name ++ "_size".toList), .mark '=', word "sizeof", .mark '(',
    .word name, .mark ')', .mark '-', word "1", .mark ';']

theorem writeHead_scans : Scans writeHead includeTokens := by
  have hnote : Scans "/* automatically generated */\n".toList [] := rfl
  have hstdint : Scans "#include <stdint.h>\n".toList (includeTokens.take 7) := rfl
  have hstddef : Scans "#include <stddef.h>\n\n".toList (includeTokens.drop 7) := rfl
  exact (hnote.append hstdint).append hstddef

theorem writeName_scans {name : Text} (hne : name ≠ []) (hname : ∀ c ∈ name, isWord c) :
    Scans (writeName name) (nameTokens name) := by
  have hconst : Scans "const uint8_t ".toList [word "const", word "uint8_t"] := rfl
  have hend : Scans (name ++ ['[']) [.word name, .mark '['] := scans_word hne hname rfl rfl
  have hopen : Scans "] = \x7b\n".toList [.mark ']', .mark '=', .mark '\x7b'] := rfl
  have hall := hconst.append (hend.append hopen)
  rwa [List.append_assoc, ← List.append_assoc] at hall

theorem writeSize_scans {name : Text} (hne : name ≠ []) (hname : ∀ c ∈ name, isWord c) :
    Scans (writeSize name) (sizeTokens name) := by
  have hconst : Scans "const size_t ".toList [word "const", word "size_t"] := rfl
  have hsuffix : ∀ c ∈ "_size".toList, isWord c := List.all_eq_true.mp rfl
  have hword : ∀ c ∈ name ++ "_size".toList, isWord c :=
    fun c hc => (List.mem_append.mp hc).elim (hname c) (hsuffix c)
  have hsize : Scans ((name ++ "_size".toList) ++ [' ']) [.word (name ++ "_size".toList)] :=
    scans_word (by simp) hword rfl rfl
  have hsizeof : Scans "= sizeof(".toList [.mark '=', word "sizeof", .mark '('] := rfl
  have hclose : Scans (name ++ [')']) [.word name, .mark ')'] := scans_word hne hname rfl rfl
  have hminus : Scans " - 1;\n".toList [.mark '-', word "1", .mark ';'] := rfl
  have hall := hconst.append (hsize.append (hsizeof.append (hclose.append hminus)))
  have htext : writeSize name = "const size_t ".toList ++ (((name ++ "_size".toList) ++ [' ']) ++
      ("= sizeof(".toList ++ ((name ++ [')']) ++ " - 1;\n".toList))) := by
    have hequals : "_size = sizeof(".toList =
        "_size".toList ++ ([' '] ++ "= sizeof(".toList) := by decide
    have hparen : ") - 1;\n".toList = [')'] ++ " - 1;\n".toList := by decide
    unfold writeSize
    simp only [hequals, hparen, List.append_assoc]
  rwa [htext]

theorem nul_scans : Scans "'\\0'\x7d;\n".toList nulTokens := rfl

/-- The array of the text is the file with a zero behind it, and the constant is its length. -/
theorem readFile_fileToC {name : Text} (hne : name ≠ []) (hname : ∀ c ∈ name, isWord c)
    (data : List UInt8) : readFile (fileToC name data) =
      some ⟨name, data ++ [0], name ++ "_size".toList, data.length⟩ := by
  have hall := ((((writeHead_scans.append (writeName_scans hne hname)).append
    (writeBytes_scans 0 data)).append nul_scans).append (writeSize_scans hne hname)).tokens_eq
  have htokens : tokens (fileToC name data) = includeTokens ++ ([word "const", word "uint8_t"] ++
      .word name :: ([.mark '[', .mark ']', .mark '=', .mark '\x7b'] ++
      (data.flatMap elementTokens ++ (nulTokens ++ ([word "const", word "size_t"] ++
      .word (name ++ "_size".toList) :: ([.mark '=', word "sizeof", .mark '(', .word name,
        .mark ')', .mark '-', word "1", .mark ';'] ++ [])))))) := by
    unfold fileToC
    rw [hall]
    simp only [nameTokens, sizeTokens, List.append_assoc, List.cons_append, List.nil_append]
  have hnul : ∀ ts, readElements (nulTokens ++ ts) = ([], nulTokens ++ ts) := fun _ => rfl
  unfold readFile
  rw [htokens]
  simp only [Option.bind_eq_bind, Option.bind_some, expect_append, readWord_word,
    readElements_data data (hnul _)]
  simp

theorem readFile_sample : readFile (fileToC "blob".toList [0, 39, 255]) =
    some ⟨"blob".toList, [0, 39, 255, 0], "blob_size".toList, 3⟩ :=
  readFile_fileToC (by decide) (List.all_eq_true.mp rfl) [0, 39, 255]

end FileToC
