import ActionLauncher.Text.Digits

namespace ActionLauncher.Echo

/-- The byte of an escape of one letter; only a rich reader knows the escape character. -/
def letter? (rich : Bool) (c : Char) : Option UInt8 :=
  if c = 'a' then some 0x07
  else if c = 'b' then some 0x08
  else if c = 't' then some 0x09
  else if c = 'n' then some 0x0A
  else if c = 'v' then some 0x0B
  else if c = 'f' then some 0x0C
  else if c = 'r' then some 0x0D
  else if c = '\\' then some 0x5C
  else if c = 'e' && rich then some 0x1B
  else none

/-- Reads at most `width` digits after the value `acc`: their value, and the rest. -/
def digits (radix : Nat) : (width : Nat) → Nat → List Char → Nat × List Char
  | width + 1, acc, c :: rest =>
      match Text.digitValue? radix c with
      | some d => digits radix width (acc * radix + d) rest
      | none => (acc, c :: rest)
  | _, acc, s => (acc, s)

theorem length_digits_le (radix width acc : Nat) (s : List Char) :
    (digits radix width acc s).2.length ≤ s.length := by
  induction s generalizing width acc with
  | nil => cases width <;> simp [digits]
  | cons c rest ih =>
      cases width with
      | zero => simp [digits]
      | succ width =>
          rw [digits]
          split
          · exact Nat.le_succ_of_le (ih _ _)
          · exact Nat.le_refl _

/-- Reads an octal code that starts with the digit `c`: three digits, not counting a zero at the
start. -/
def octal (c : Char) (rest : List Char) : Nat × List Char :=
  digits 8 (if c = '0' then 3 else 2) ((Text.digitValue? 8 c).getD 0) rest

theorem length_octal_le (c : Char) (rest : List Char) :
    (octal c rest).2.length ≤ rest.length :=
  length_digits_le ..

/-- Puts bytes in front of those that are read already. -/
def prepend (bytes : List UInt8) (later : List UInt8 × Bool) : List UInt8 × Bool :=
  (bytes ++ later.1, later.2)

/-- The bytes of a text with its escapes resolved, and whether an escape ended the whole output.
A rich reader takes hexadecimal codes of two digits too.  An unknown escape stands for itself. -/
def unescape (rich : Bool) : List Char → List UInt8 × Bool
  | [] => ([], false)
  | '\\' :: c :: rest =>
      have := length_digits_le 16 2 0 rest
      have := length_octal_le c rest
      if c = 'c' then ([], true)
      else if (Text.digitValue? 8 c).isSome then
        prepend [UInt8.ofNat (octal c rest).1] (unescape rich (octal c rest).2)
      else if c = 'x' && rich && (digits 16 2 0 rest).2.length < rest.length then
        prepend [UInt8.ofNat (digits 16 2 0 rest).1] (unescape rich (digits 16 2 0 rest).2)
      else
        match letter? rich c with
        | some byte => prepend [byte] (unescape rich rest)
        | none => prepend (0x5C :: String.utf8EncodeChar c) (unescape rich rest)
  | c :: rest => prepend (String.utf8EncodeChar c) (unescape rich rest)
  termination_by s => s.length
  decreasing_by all_goals (simp only [List.length_cons]; omega)

/-- The bytes of some arguments whose escapes are read by `read`, and of what follows them. -/
def joined (read : List Char → List UInt8 × Bool) (ending : List UInt8) :
    List String → List UInt8
  | [] => ending
  | argument :: rest =>
      match read argument.toList with
      | (bytes, true) => bytes
      | (bytes, false) =>
          if rest.isEmpty then bytes ++ ending else bytes ++ 0x20 :: joined read ending rest

/-- Whether an argument of the program sets options. -/
def isOption (argument : String) : Bool :=
  match argument.toList with
  | '-' :: c :: rest => (c :: rest).all fun d => d == 'n' || d == 'e' || d == 'E'
  | _ => false

/-- What the program prints: `-n` leaves out the line feed, and of `-e` and `-E` the last one says
whether escapes are resolved. -/
def program (args : List String) : List UInt8 :=
  let options := (args.takeWhile isOption).flatMap String.toList
  let escapes := (options.filter fun c => c == 'e' || c == 'E').getLast? == some 'e'
  let read := if escapes then unescape true else fun s => (s.flatMap String.utf8EncodeChar, false)
  joined read (if options.contains 'n' then [] else [0x0A]) (args.dropWhile isOption)

/-- What the command of a shell prints: only a first `-n` is an option. -/
def command (args : List String) : List UInt8 :=
  match args with
  | "-n" :: rest => joined (unescape false) [] rest
  | args => joined (unescape false) [0x0A] args

end ActionLauncher.Echo
