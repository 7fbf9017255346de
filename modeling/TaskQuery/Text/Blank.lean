namespace TaskQuery.Text

/-- White space after Unicode. -/
def isSpace (c : Char) : Bool :=
  let n := c.toNat
  (9 ≤ n && n ≤ 13) || n == 32 || n == 0x85 || n == 0xA0 || n == 0x1680 || (0x2000 ≤ n && n ≤ 0x200A) ||
    n == 0x2028 || n == 0x2029 || n == 0x202F || n == 0x205F || n == 0x3000

/-- White space, and the separators of files, groups, records and units: what trimming a text removes. -/
def isBlank (c : Char) : Bool :=
  isSpace c || (28 ≤ c.toNat && c.toNat ≤ 31)

/-- Drops what `drop` accepts from both ends. -/
def stripWhere (drop : Char → Bool) (cs : List Char) : List Char :=
  ((cs.dropWhile drop).reverse.dropWhile drop).reverse

def trim (s : String) : String :=
  String.ofList (stripWhere isBlank s.toList)

/-- The words of `cs` after the letters `word`, which are held in reverse. -/
def wordsAfter (word : List Char) : List Char → List (List Char)
  | [] => if word.isEmpty then [] else [word.reverse]
  | c :: cs =>
    if isBlank c then
      if word.isEmpty then wordsAfter [] cs else word.reverse :: wordsAfter [] cs
    else wordsAfter (c :: word) cs

/-- The maximal runs without a blank, in order. -/
def words (cs : List Char) : List (List Char) :=
  wordsAfter [] cs

/-- The words, joined by single blanks. -/
def squeeze (cs : List Char) : List Char :=
  [' '].intercalate (words cs)

def isBlankText (s : String) : Bool :=
  s.toList.all isBlank

theorem isBlank_of_isSpace {c : Char} (h : isSpace c = true) : isBlank c = true := by
  simp [isBlank, h]

example : trim " a b\u001f" = "a b" := by decide

example : squeeze "  not \t in ".toList = "not in".toList := by decide

end TaskQuery.Text
