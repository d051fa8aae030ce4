import ResilientHttp.Text.Punycode
import ResilientHttp.Url.Domain.Joining
import ResilientHttp.Url.Domain.MappingTable

/-!
# Labels of domain names

A domain name consists of labels between dots. Every character of a domain name is mapped first
(`replacement?`): capital letters become small ones, some characters are left out, and others are not
allowed. A label that is spelled in Punycode, which begins with `xn--`, is decoded; then it has to be
a label that the mapping does not change (`isStable`).

A label may not begin with a mark, has its joiners only where they are allowed, and is not longer than
can be handled (`isValid`).
-/

set_option autoImplicit false

namespace ResilientHttp.Url.Domain

/-- The marks, as far as domain names may have them, of kind `M`. -/
def markTable : Text.CodeTable := Text.CodeTable.ofText
  "300-36fM 483-489M 591-5bdM 5bfM 5c1-5c2M 5c4-5c5M 5c7M 610-61aM 64b-65fM 670M 6d6-6dcM 6df-6e4M
6e7-6e8M 6ea-6edM 711M 730-74aM 7a6-7b0M 7eb-7f3M 7fdM 816-819M 81b-823M 825-827M 829-82dM
859-85bM 897-89fM 8ca-903M 93a-93cM 93e-94fM 951-957M 962-963M 981-983M 9bcM 9be-9cdM 9d7M
9e2-9e3M 9fe-a03M a3c-a51M a70-a71M a75M a81-a83M abcM abe-acdM ae2-ae3M afa-b03M b3cM b3e-b57M
b62-b63M b82M bbe-bcdM bd7M c00-c04M c3cM c3e-c56M c62-c63M c81-c83M cbcM cbe-cd6M ce2-ce3M
cf3-d03M d3b-d3cM d3e-d4dM d57M d62-d63M d81-d83M dca-ddfM df2-df3M e31M e34-e3aM e47-e4eM eb1M
eb4-ebcM ec8-eceM f18-f19M f35M f37M f39M f3e-f3fM f71-f84M f86-f87M f8d-fbcM fc6M 102b-103eM
1056-1059M 105e-1060M 1062-1064M 1067-106dM 1071-1074M 1082-108dM 108fM 109a-109dM 135d-135fM
1712-1715M 1732-1734M 1752-1753M 1772-1773M 17b6-17d3M 17ddM 1885-1886M 18a9M 1920-193bM
1a17-1a1bM 1a55-1a7fM 1ab0-1b04M 1b34-1b44M 1b6b-1b73M 1b80-1b82M 1ba1-1badM 1be6-1bf3M 1c24-1c37M
1cd0-1cd2M 1cd4-1ce8M 1cedM 1cf4M 1cf7-1cf9M 1dc0-1dffM 20d0-20f0M 2cef-2cf1M 2d7fM 2de0-2dffM
302a-302fM 3099-309aM a66f-a672M a674-a67dM a69e-a69fM a6f0-a6f1M a802M a806M a80bM a823-a827M
a82cM a880-a881M a8b4-a8c5M a8e0-a8f1M a8ffM a926-a92dM a947-a953M a980-a983M a9b3-a9c0M a9e5M
aa29-aa36M aa43M aa4c-aa4dM aa7b-aa7dM aab0M aab2-aab4M aab7-aab8M aabe-aabfM aac1M aaeb-aaefM
aaf5-aaf6M abe3-abeaM abec-abedM fb1eM fe20-fe2fM 101fdM 102e0M 10376-1037aM 10a01-10a0fM
10a38-10a3fM 10ae5-10ae6M 10d24-10d27M 10d69-10d6dM 10eab-10eacM 10efa-10effM 10f46-10f50M
10f82-10f85M 11000-11002M 11038-11046M 11070M 11073-11074M 1107f-11082M 110b0-110baM 110c2M
11100-11102M 11127-11134M 11145-11146M 11173M 11180-11182M 111b3-111c0M 111c9-111ccM 111ce-111cfM
1122c-11237M 1123eM 11241M 112df-112eaM 11300-11303M 1133b-1133cM 1133e-1134dM 11357M 11362-11374M
113b8-113d0M 113d2M 113e1-113e2M 11435-11446M 1145eM 114b0-114c3M 115af-115c0M 115dc-115ddM
11630-11640M 116ab-116b7M 1171d-1172bM 1182c-1183aM 11930-1193eM 11940M 11942-11943M 119d1-119e0M
119e4M 11a01-11a0aM 11a33-11a39M 11a3b-11a3eM 11a47M 11a51-11a5bM 11a8a-11a99M 11b60-11b67M
11c2f-11c3fM 11c92-11cb6M 11d31-11d45M 11d47M 11d8a-11d97M 11ef3-11ef6M 11f00-11f01M 11f03M
11f34-11f42M 11f5aM 13440M 13447-13455M 1611e-1612fM 16af0-16af4M 16b30-16b36M 16f4fM 16f51-16f92M
16fe4-16ff1M 1bc9d-1bc9eM 1cf00-1cf46M 1d165-1d169M 1d16d-1d182M 1d185-1d18bM 1d1aa-1d1adM
1d242-1d244M 1da00-1da36M 1da3b-1da6cM 1da75M 1da84M 1da9b-1daafM 1e000-1e08fM 1e130-1e136M 1e2aeM
1e2ec-1e2efM 1e4ec-1e4efM 1e5ee-1e5efM 1e6e3M 1e6e6M 1e6ee-1e6efM 1e6f5M 1e8d0-1e8d6M 1e944-1e94aM"

/-! ## Mapping -/

/-- What a character is replaced by, unless it is not allowed. -/
def replacement? (character : Char) : Option (List Char) :=
  match mappingTable.find? character.toNat with
  | none => some [character]
  | some row =>
    match row.kind, row.values with
    | '>', [value] => some [Char.ofNat (row.shifted character.toNat value)]
    | '>', values => some (values.map Char.ofNat)
    | _, _ => none

/-- A text with every character mapped, in canonical form. -/
def mapped? (characters : List Char) : Option (List Char) :=
  (characters.mapM replacement?).map fun parts => Text.Canonical.normalize parts.flatten

/-- Whether a text is in canonical form and the mapping leaves each of its characters alone. -/
def isStable (characters : List Char) : Bool :=
  characters.all (fun character => (mappingTable.find? character.toNat).isNone) &&
    Text.Canonical.normalize characters == characters

/-! ## Labels -/

namespace Label

/-- How a label in Punycode begins. -/
def encodedMark : List Char := ['x', 'n', '-', '-']

/-- The longest text after the mark that is decoded. -/
def maxEncodedLength : Nat := 2000

/-- The longest label beyond ASCII. -/
def maxLength : Nat := 1000

/-- Whether a text is ASCII. -/
def isAscii (characters : List Char) : Bool := characters.all (·.toNat < 128)

/-- Whether a text begins with the mark of Punycode, in small or capital letters. -/
def isEncoded (characters : List Char) : Bool :=
  (characters.take 4).map Char.toLower == encodedMark

/-- Whether a label may be part of a domain name. -/
def isValid (label : List Char) : Bool :=
  ((label.head?).bind markTable.kind?).isNone && joinersFit label &&
    (isAscii label || label.length ≤ maxLength)

/-- The label that a part of a mapped domain name stands for. -/
def read? (part : List Char) : Option (List Char) :=
  if isEncoded part then
    let encoded := part.drop 4
    if part.getLast? = some '-' || maxEncodedLength < encoded.length then none
    else (Text.Punycode.decode? encoded).filter fun label => isStable label && isValid label
  else (some part).filter isValid

/-- A label in ASCII. -/
def ascii (label : List Char) : List Char :=
  if isAscii label then label else encodedMark ++ Text.Punycode.encode label

end Label

end ResilientHttp.Url.Domain
