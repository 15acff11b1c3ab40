import SchemaForge.Text.Quoted

/-!
# Warnings
-/

namespace SchemaForge

/-- Something noticed that does not stop the work. -/
structure Warning where
  message : String
  fields : List (String × String)
  deriving DecidableEq

namespace Warning

/-- The spelling of a character in a message. Controls that terminals act on appear by their
number. -/
def spelled (c : Char) : List Char :=
  let n := c.toNat
  if n ∈ [0x07, 0x08, 0x0c, 0x1b, 0x7f] then
    ['\\', 'x', Text.hexDigit (n / 16), Text.hexDigit (n % 16)]
  else if 0x80 ≤ n && n ≤ 0x9f then
    ['\\', 'u', '\x7b', Text.hexDigit (n / 16), Text.hexDigit (n % 16), '\x7d']
  else [c]

/-- One line with the fields after the message. -/
def text (w : Warning) : String :=
  "WARN " ++ String.ofList (w.message.toList.flatMap spelled) ++
    String.join (w.fields.map fun (name, value) => " " ++ name ++ "=" ++ value)

def skippedRange (entry : String) : Warning :=
  ⟨"Skipping unparseable IPv4 range entry", [("entry", entry)]⟩

def undefinedName (name : String) : Warning :=
  ⟨"Reference to an undefined type", [("name", name)]⟩

end Warning

end SchemaForge
