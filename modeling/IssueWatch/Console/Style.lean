import IssueWatch.Text.Character
import IssueWatch.Text.Integer
import IssueWatch.Text.LetterCase
import IssueWatch.Text.Lines

/-!
# Styles

What a tag switches on: attributes, which can also be switched off, a colour, a colour behind the text
and a link. Styles that are written in different ways have the same normal form. A text that is no style
is a name, and its normal form is in lower case without blanks around it.
-/
namespace IssueWatch.Console

/-!
## Colours

A colour has a name, or is written as six hexadecimal digits, as its number in a palette or as its three
components. Letter case does not matter.
-/

def colorNames : List String :=
  ["black", "red", "green", "yellow", "blue", "magenta", "cyan", "white", "bright_black",
    "bright_red", "bright_green", "bright_yellow", "bright_blue", "bright_magenta", "bright_cyan",
    "bright_white", "grey0", "gray0", "navy_blue", "dark_blue", "blue3", "blue1", "dark_green",
    "deep_sky_blue4", "dodger_blue3", "dodger_blue2", "green4", "spring_green4", "turquoise4",
    "deep_sky_blue3", "dodger_blue1", "green3", "spring_green3", "dark_cyan", "light_sea_green",
    "deep_sky_blue2", "deep_sky_blue1", "spring_green2", "cyan3", "dark_turquoise", "turquoise2",
    "green1", "spring_green1", "medium_spring_green", "cyan2", "cyan1", "dark_red", "deep_pink4",
    "purple4", "purple3", "blue_violet", "orange4", "grey37", "gray37", "medium_purple4",
    "slate_blue3", "royal_blue1", "chartreuse4", "dark_sea_green4", "pale_turquoise4", "steel_blue",
    "steel_blue3", "cornflower_blue", "chartreuse3", "cadet_blue", "sky_blue3", "steel_blue1",
    "pale_green3", "sea_green3", "aquamarine3", "medium_turquoise", "chartreuse2", "sea_green2",
    "sea_green1", "aquamarine1", "dark_slate_gray2", "dark_magenta", "dark_violet", "purple",
    "light_pink4", "plum4", "medium_purple3", "slate_blue1", "yellow4", "wheat4", "grey53",
    "gray53", "light_slate_grey", "light_slate_gray", "medium_purple", "light_slate_blue",
    "dark_olive_green3", "dark_sea_green", "light_sky_blue3", "sky_blue2", "dark_sea_green3",
    "dark_slate_gray3", "sky_blue1", "chartreuse1", "light_green", "pale_green1",
    "dark_slate_gray1", "red3", "medium_violet_red", "magenta3", "dark_orange3", "indian_red",
    "hot_pink3", "medium_orchid3", "medium_orchid", "medium_purple2", "dark_goldenrod",
    "light_salmon3", "rosy_brown", "grey63", "gray63", "medium_purple1", "gold3", "dark_khaki",
    "navajo_white3", "grey69", "gray69", "light_steel_blue3", "light_steel_blue", "yellow3",
    "dark_sea_green2", "light_cyan3", "light_sky_blue1", "green_yellow", "dark_olive_green2",
    "dark_sea_green1", "pale_turquoise1", "deep_pink3", "magenta2", "hot_pink2", "orchid",
    "medium_orchid1", "orange3", "light_pink3", "pink3", "plum3", "violet", "light_goldenrod3",
    "tan", "misty_rose3", "thistle3", "plum2", "khaki3", "light_goldenrod2", "light_yellow3",
    "grey84", "gray84", "light_steel_blue1", "yellow2", "dark_olive_green1", "honeydew2",
    "light_cyan1", "red1", "deep_pink2", "deep_pink1", "magenta1", "orange_red1", "indian_red1",
    "hot_pink", "dark_orange", "salmon1", "light_coral", "pale_violet_red1", "orchid2", "orchid1",
    "orange1", "sandy_brown", "light_salmon1", "light_pink1", "pink1", "plum1", "gold1",
    "navajo_white1", "misty_rose1", "thistle1", "yellow1", "light_goldenrod1", "khaki1", "wheat1",
    "cornsilk1", "grey100", "gray100", "grey3", "gray3", "grey7", "gray7", "grey11", "gray11",
    "grey15", "gray15", "grey19", "gray19", "grey23", "gray23", "grey27", "gray27", "grey30",
    "gray30", "grey35", "gray35", "grey39", "gray39", "grey42", "gray42", "grey46", "gray46",
    "grey50", "gray50", "grey54", "gray54", "grey58", "gray58", "grey62", "gray62", "grey66",
    "gray66", "grey70", "gray70", "grey74", "gray74", "grey78", "gray78", "grey82", "gray82",
    "grey85", "gray85", "grey89", "gray89", "grey93", "gray93"]

/-- Why a word is no colour: it does not look like one or is out of range, or one of its components is no
number. -/
inductive ColorError where
  | unknown
  | component (fault : Text.IntegerFault)
  deriving DecidableEq, Repr

namespace Color

/-- The largest number of a colour and of each of its components. -/
def maxComponent : Nat := 255

/-- Whether a text consists of six hexadecimal digits. -/
def isHexTriple (digits : List Char) : Bool :=
  digits.length == 6 && digits.all fun c => (Text.hexValue? c).isSome

def isPaletteNumber (digits : List Char) : Bool :=
  !digits.isEmpty && digits.length ≤ 3 && digits.all Decimal.isDigit &&
    Decimal.ofDigits digits ≤ maxComponent

/-- The text between a word with an opening parenthesis and a closing one, if there is any. -/
def argument? (function : String) (text : List Char) : Option (List Char) :=
  let rest := text.drop function.length
  if function.toList.isPrefixOf text && rest.getLast? == some ')' && 1 < rest.length then
    some rest.dropLast
  else none

/-- Cuts a text at its commas. The first argument is the start of a part, reversed. -/
def splitCommas (part : List Char) : List Char → List (List Char)
  | [] => [part.reverse]
  | c :: rest =>
    if c = ',' then part.reverse :: splitCommas [] rest else splitCommas (c :: part) rest

/-- Reads a component of a colour. -/
def component (text : List Char) : Except ColorError Int :=
  (Text.readInteger (String.ofList text)).mapError .component

/-- Checks the components of a colour. -/
def checkComponents (text : List Char) : Except ColorError Unit :=
  match splitCommas [] text with
  | [red, green, blue] => do
    let components := [← component red, ← component green, ← component blue]
    if components.all (· ≤ maxComponent) then .ok () else .error .unknown
  | _ => .error .unknown

/-- Whether a text can hold the components of a colour: digits of any script and commas. -/
def isComponentText (text : List Char) : Bool :=
  text.all fun c => c == ',' || (Text.decimalValue? c).isSome

/-- The name of a colour, which is a word without blanks in lower case. -/
def name (word : List Char) : Except ColorError String :=
  let text := Text.lower word
  let found := String.ofList text
  if found = "default" ∨ colorNames.contains found then .ok found
  else if text.head? = some '#' ∧ isHexTriple text.tail then .ok found
  else if ((argument? "color(" text).map isPaletteNumber).getD false then .ok found
  else
    match argument? "rgb(" text with
    | some components =>
      if isComponentText components then (checkComponents components).map fun _ => found
      else .error .unknown
    | none => .error .unknown

end Color

/-! ## Styles -/

/-- A property that a text has or has not. -/
inductive Attribute where
  | bold
  | dim
  | italic
  | underline
  | blink
  | blink2
  | reverse
  | conceal
  | strike
  | underline2
  | frame
  | encircle
  | overline
  deriving DecidableEq, Repr

namespace Attribute

def all : List Attribute :=
  [bold, dim, italic, underline, blink, blink2, reverse, conceal, strike, underline2, frame, encircle,
    overline]

def text : Attribute → String
  | bold => "bold"
  | dim => "dim"
  | italic => "italic"
  | underline => "underline"
  | blink => "blink"
  | blink2 => "blink2"
  | reverse => "reverse"
  | conceal => "conceal"
  | strike => "strike"
  | underline2 => "underline2"
  | frame => "frame"
  | encircle => "encircle"
  | overline => "overline"

/-- The short name of an attribute, if it has one. -/
def shortText? : Attribute → Option String
  | bold => some "b"
  | dim => some "d"
  | italic => some "i"
  | underline => some "u"
  | reverse => some "r"
  | conceal => some "c"
  | strike => some "s"
  | underline2 => some "uu"
  | overline => some "o"
  | blink | blink2 | frame | encircle => none

def ofText? (name : String) : Option Attribute :=
  all.find? fun property => property.text = name ∨ property.shortText? = some name

end Attribute

/-- What a tag switches on. The last setting of an attribute stands first and counts. -/
structure Style where
  attributes : List (Attribute × Bool) := []
  color : Option String := none
  background : Option String := none
  link : Option String := none
  deriving DecidableEq, Repr

namespace Style

def setting? (style : Style) (property : Attribute) : Option Bool :=
  (style.attributes.find? fun entry => entry.1 = property).map Prod.snd

def switch (style : Style) (property : Attribute) (value : Bool) : Style :=
  { style with attributes := (property, value) :: style.attributes }

/-- The words of the normal form of a style. -/
def normalWords (style : Style) : List String :=
  (Attribute.all.filterMap fun property =>
      (style.setting? property).map fun value =>
        if value then property.text else "not " ++ property.text) ++
    style.color.toList ++ (style.background.map ("on " ++ ·)).toList ++
    (style.link.map ("link " ++ ·)).toList

def text (style : Style) : String :=
  if style.normalWords.isEmpty then "none" else Text.join " " style.normalWords

def addWords (style : Style) : List (List Char) → Except ColorError Style
  | [] => .ok style
  | word :: rest =>
    let lower := String.ofList (Text.lower word)
    if lower = "on" then
      match rest with
      | [] => .error .unknown
      | color :: others =>
        match Color.name color with
        | .ok name => addWords { style with background := some name } others
        | .error error => .error error
    else if lower = "not" then
      match rest with
      | [] => .error .unknown
      | name :: others =>
        match Attribute.ofText? (String.ofList name) with
        | some property => addWords (style.switch property false) others
        | none => .error .unknown
    else if lower = "link" then
      match rest with
      | [] => .error .unknown
      | target :: others => addWords { style with link := some (String.ofList target) } others
    else
      match Attribute.ofText? lower with
      | some property => addWords (style.switch property true) rest
      | none =>
        match Color.name word with
        | .ok name => addWords { style with color := some name } rest
        | .error error => .error error

/-- The normal form of what a tag holds. -/
def normalText (text : List Char) : Except Text.IntegerFault String :=
  let name := Text.trimEnd (Text.trimStart text)
  if name = "none".toList then .ok "none"
  else
    match addWords {} (Text.words text) with
    | .ok style => .ok style.text
    | .error .unknown => .ok (String.ofList (Text.lower name))
    | .error (.component fault) => .error fault

end Style
end IssueWatch.Console
