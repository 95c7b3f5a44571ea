import Keystroke.Pattern.CharSet
import Keystroke.Unicode.Listed

namespace Keystroke.CharSet

/-- A property name without what does not distinguish names: case, spaces, hyphens, underscores
and a leading `is`. -/
def plainName (name : Text) : Text :=
  let kept := (name.filter fun c => c ≠ ' ' ∧ c ≠ '-' ∧ c ≠ '_' ∧ c.toNat < 128).map Char.toLower
  match kept with
  | 'i' :: 's' :: rest => if rest = ['c'] then kept else rest
  | _ => kept

def categoriesNamed? (name : String) : Option (List Unicode.Category) :=
  match name with
  | "l" | "letter" => some [.lu, .ll, .lt, .lm, .lo]
  | "lc" | "casedletter" => some [.lu, .ll, .lt]
  | "lu" | "uppercaseletter" => some [.lu]
  | "ll" | "lowercaseletter" => some [.ll]
  | "lt" | "titlecaseletter" => some [.lt]
  | "lm" | "modifierletter" => some [.lm]
  | "lo" | "otherletter" => some [.lo]
  | "m" | "mark" | "combiningmark" => some [.mn, .mc, .me]
  | "mn" | "nonspacingmark" => some [.mn]
  | "mc" | "spacingmark" => some [.mc]
  | "me" | "enclosingmark" => some [.me]
  | "n" | "number" => some [.nd, .nl, .no]
  | "nd" | "decimalnumber" | "digit" => some [.nd]
  | "nl" | "letternumber" => some [.nl]
  | "no" | "othernumber" => some [.no]
  | "p" | "punctuation" | "punct" => some [.pc, .pd, .ps, .pe, .pi, .pf, .po]
  | "pc" | "connectorpunctuation" => some [.pc]
  | "pd" | "dashpunctuation" => some [.pd]
  | "ps" | "openpunctuation" => some [.ps]
  | "pe" | "closepunctuation" => some [.pe]
  | "pi" | "initialpunctuation" => some [.pi]
  | "pf" | "finalpunctuation" => some [.pf]
  | "po" | "otherpunctuation" => some [.po]
  | "s" | "symbol" => some [.sm, .sc, .sk, .so]
  | "sm" | "mathsymbol" => some [.sm]
  | "sc" | "currencysymbol" => some [.sc]
  | "sk" | "modifiersymbol" => some [.sk]
  | "so" | "othersymbol" => some [.so]
  | "z" | "separator" => some [.zs, .zl, .zp]
  | "zs" | "spaceseparator" => some [.zs]
  | "zl" | "lineseparator" => some [.zl]
  | "zp" | "paragraphseparator" => some [.zp]
  | "c" | "other" => some [.cc, .cf, .cn, .co]
  | "cc" | "control" | "cntrl" => some [.cc]
  | "cf" | "format" => some [.cf]
  | "cn" | "unassigned" => some [.cn]
  | "co" | "privateuse" => some [.co]
  | _ => none

def general? (name : String) : Option CharSet :=
  match name with
  | "any" => some all
  | "assigned" => some (compl (category .cn))
  | "ascii" => some (range '\x00' '\x7f')
  | _ => (categoriesNamed? name).map ofCategories

def lowercase : CharSet :=
  union (category .ll) <| ofRanges [('ª', 'ª'), ('º', 'º'), ('\u02B0', '\u02B8'),
    ('\u02C0', '\u02C1'), ('\u02E0', '\u02E4'), ('\u0345', '\u0345'), ('\u037A', '\u037A'),
    ('\u10FC', '\u10FC'), ('\u1D2C', '\u1D6A'), ('\u1D78', '\u1D78'), ('\u1D9B', '\u1DBF'),
    ('\u2071', '\u2071'), ('\u207F', '\u207F'), ('\u2090', '\u209C'), ('\u2170', '\u217F'),
    ('\u24D0', '\u24E9'), ('\u2C7C', '\u2C7D'), ('\uA69C', '\uA69D'), ('\uA770', '\uA770'),
    ('\uA7F2', '\uA7F4'), ('\uA7F8', '\uA7F9'), ('\uAB5C', '\uAB5F'), ('\uAB69', '\uAB69'),
    (Char.ofNat 0x10780, Char.ofNat 0x10780), (Char.ofNat 0x10783, Char.ofNat 0x10785),
    (Char.ofNat 0x10787, Char.ofNat 0x107B0), (Char.ofNat 0x107B2, Char.ofNat 0x107BA),
    (Char.ofNat 0x1E030, Char.ofNat 0x1E06D)]

def uppercase : CharSet :=
  union (category .lu) <| ofRanges [('\u2160', '\u216F'), ('\u24B6', '\u24CF'),
    (Char.ofNat 0x1F130, Char.ofNat 0x1F149), (Char.ofNat 0x1F150, Char.ofNat 0x1F169),
    (Char.ofNat 0x1F170, Char.ofNat 0x1F189)]

def ofChars (t : Text) : CharSet :=
  ofList (t.map single)

def identifierStart : CharSet :=
  diff (union (ofCategories [.lu, .ll, .lt, .lm, .lo, .nl])
    (ofChars ['\u1885', '\u1886', '\u2118', '\u212E', '\u309B', '\u309C'])) (single '\u2E2F')

def identifierPart : CharSet :=
  union identifierStart <| union (ofCategories [.mn, .mc, .nd, .pc]) <|
    ofRanges [('\u00B7', '\u00B7'), ('\u0387', '\u0387'), ('\u1369', '\u1371'),
      ('\u19DA', '\u19DA'), ('\u200C', '\u200D'), ('\u30FB', '\u30FB'), ('\uFF65', '\uFF65')]

def unstable : CharSet :=
  ofChars ['\u037A', '\u309B', '\u309C', '\uFC5E', '\uFC5F', '\uFC60', '\uFC61', '\uFC62',
    '\uFC63', '\uFDFA', '\uFDFB', '\uFE70', '\uFE72', '\uFE74', '\uFE76', '\uFE78', '\uFE7A',
    '\uFE7C', '\uFE7E']

def graphemeExtend : CharSet :=
  union (ofCategories [.mn, .me]) (listed Unicode.otherGraphemeExtend)

def derived? (name : String) : Option CharSet :=
  match name with
  | "alphabetic" | "alpha" => some alphabetic
  | "lowercase" | "lower" => some lowercase
  | "uppercase" | "upper" => some uppercase
  | "cased" => some (union (union lowercase uppercase) (category .lt))
  | "caseignorable" | "ci" =>
    some (union (ofCategories [.mn, .me, .cf, .lm, .sk]) (ofChars ['\x27', '.', ':', '\u00B7',
      '\u0387', '\u055F', '\u05F4', '\u2018', '\u2019', '\u2024', '\u2027', '\uFE13', '\uFE52',
      '\uFE55', '\uFF07', '\uFF0E', '\uFF1A']))
  | "whitespace" | "wspace" | "space" => some blank
  | "asciihexdigit" | "ahex" => some hexDigit
  | "hexdigit" | "hex" =>
    some (union hexDigit
      (ofRanges [('\uFF10', '\uFF19'), ('\uFF21', '\uFF26'), ('\uFF41', '\uFF46')]))
  | "joincontrol" | "joinc" => some (range '\u200C' '\u200D')
  | "idstart" | "ids" => some identifierStart
  | "idcontinue" | "idc" => some identifierPart
  | "xidstart" | "xids" =>
    some (diff identifierStart
      (union unstable (ofChars ['\u0E33', '\u0EB3', '\uFF9E', '\uFF9F'])))
  | "xidcontinue" | "xidc" => some (diff identifierPart unstable)
  | "graphemeextend" | "grext" => some graphemeExtend
  | "graphemebase" | "grbase" =>
    some (compl (union graphemeExtend (ofCategories [.cc, .cf, .cs, .co, .cn, .zl, .zp])))
  | _ => none

def listed? (name : String) : Option CharSet :=
  (Unicode.listedProperties.find? fun (short, long, _) => name = short ∨ name = long).map
    fun (_, _, ranges) => listed ranges

/-- The set of a script. Two scripts have an older code beside their own. -/
def script? (name : String) : Option CharSet :=
  let name :=
    match name with
    | "qaai" => "zinh"
    | "qaac" => "copt"
    | _ => name
  (Unicode.scriptNames.find? fun (short, long, _) => name = short ∨ name = long).map
    fun (_, _, s) => script s

def splitName (isMark : Char → Bool) (name : Text) : Option (Text × Text) :=
  match name.dropWhile (!isMark ·) with
  | [] => none
  | _ :: value => some (name.takeWhile (!isMark ·), value)

def valued? (property value : Text) : Option CharSet :=
  match String.ofList (plainName property) with
  | "gc" | "generalcategory" => general? (String.ofList (plainName value))
  | "sc" | "script" => script? (String.ofList (plainName value))
  | _ => none

/-- The set that a name after `\p` stands for. A value is separated from its property by an
equals sign or a colon, or by `!=` for the complement. -/
def named? (name : Text) : Option CharSet :=
  match splitName (fun c => c = ':' || c = '=') name with
  | some (property, value) =>
    if name.contains ':' || property.getLast? ≠ some '!' then valued? property value
    else (valued? property.dropLast value).map compl
  | none =>
    let name := String.ofList (plainName name)
    derived? name <|> listed? name <|> general? name <|> script? name

def ascii? (name : Text) : Option CharSet :=
  match String.ofList name with
  | "alnum" => some (ofRanges [('0', '9'), ('A', 'Z'), ('a', 'z')])
  | "alpha" => some (ofRanges [('A', 'Z'), ('a', 'z')])
  | "ascii" => some (range '\x00' '\x7f')
  | "blank" => some (ofRanges [('\t', '\t'), (' ', ' ')])
  | "cntrl" => some (ofRanges [('\x00', '\x1f'), ('\x7f', '\x7f')])
  | "digit" => some (range '0' '9')
  | "graph" => some (range '!' '~')
  | "lower" => some (range 'a' 'z')
  | "print" => some (range ' ' '~')
  | "punct" => some (ofRanges [('!', '/'), (':', '@'), ('[', '\x60'), ('\x7b', '~')])
  | "space" => some (ofRanges [('\t', '\r'), (' ', ' ')])
  | "upper" => some (range 'A' 'Z')
  | "word" => some (ofRanges [('0', '9'), ('A', 'Z'), ('_', '_'), ('a', 'z')])
  | "xdigit" => some hexDigit
  | _ => none

end Keystroke.CharSet
