import EntityModel.Declaration.Field
import EntityModel.Text.Affix

/-!
# Sample data hints

For each field an expression that makes up sample data. Enumerations, arrays and objects are built
from their parts; else a hint given with the field wins, then a pattern in the field's name, then
the bounds of the field, then its kind.
-/

namespace EntityModel.SampleHint

/-! ### Given hints -/

/-- Hints in common use and the expressions that they stand for. -/
def aliases : List (String × String) := [
  ("person.fullName", "faker.name()"),
  ("person.firstName", "faker.first_name()"),
  ("person.lastName", "faker.last_name()"),
  ("person.bio", "faker.paragraph()"),
  ("person.jobTitle", "faker.job()"),
  ("internet.email", "faker.email()"),
  ("internet.url", "faker.url()"),
  ("internet.avatar", "faker.image_url()"),
  ("internet.username", "faker.user_name()"),
  ("internet.password", "faker.password()"),
  ("lorem.word", "faker.word()"),
  ("lorem.sentence", "faker.sentence()"),
  ("lorem.paragraph", "faker.paragraph()"),
  ("lorem.paragraphs", "'\\n\\n'.join(faker.paragraphs(nb=3))"),
  ("lorem.text", "faker.text()"),
  ("image.avatar", "faker.image_url()"),
  ("image.url", "faker.image_url()"),
  ("location.city", "faker.city()"),
  ("location.country", "faker.country()"),
  ("location.streetAddress", "faker.street_address()"),
  ("location.zipCode", "faker.postcode()"),
  ("location.latitude", "float(faker.latitude())"),
  ("location.longitude", "float(faker.longitude())"),
  ("commerce.price", "float(faker.pricetag().lstrip('$').replace(',', ''))"),
  ("company.name", "faker.company()"),
  ("company.catchPhrase", "faker.catch_phrase()"),
  ("color.rgb", "faker.hex_color()"),
  ("color.human", "faker.color_name()"),
  ("date.past", "faker.past_datetime()"),
  ("date.future", "faker.future_datetime()"),
  ("date.recent", "faker.date_time_this_month()"),
  ("date.birthdate", "faker.date_of_birth()")]

/-- Whether characters have the shape of a provider's name: lowercase letters, digits and
underscores, with no digit first; a line end after it is let through. -/
def isProviderName (cs : List Char) : Bool :=
  let body := if cs.getLast? == some '\n' then cs.dropLast else cs
  match body with
  | [] => false
  | c :: rest => (c.isLower || c == '_') && rest.all fun d => d.isLower || d.isDigit || d == '_'

/-- The expression for a hint, if it is one: an alias, a provider's name or an expression. -/
def ofGiven? (hint : String) : Option String :=
  (aliases.lookup hint).or
    (if isProviderName hint.toList then some ("faker." ++ hint ++ "()")
    else if "faker.".toList.isPrefixOf hint.toList then some hint
    else none)

/-! ### Patterns in names -/

/-- What a name has to look like, apart from case. -/
inductive NamePattern where
  /-- the name is this word -/
  | whole (word : String)
  /-- the name has one of these parts -/
  | anyPart (parts : List String)

/-- Patterns and expressions; the first pattern that fits counts. -/
def namePatterns : List (NamePattern × String) := [
  (.whole "email", "faker.email()"),
  (.whole "name", "faker.name()"),
  (.anyPart ["firstname", "first_name"], "faker.first_name()"),
  (.anyPart ["lastname", "last_name"], "faker.last_name()"),
  (.anyPart ["phone"], "faker.phone_number()"),
  (.anyPart ["avatar"], "faker.image_url()"),
  (.anyPart ["image", "photo", "picture", "thumbnail"], "faker.image_url()"),
  (.anyPart ["url", "link", "website"], "faker.url()"),
  (.anyPart ["address"], "faker.street_address()"),
  (.anyPart ["city"], "faker.city()"),
  (.anyPart ["country"], "faker.country()"),
  (.anyPart ["zip", "postal"], "faker.postcode()"),
  (.anyPart ["price", "cost", "amount"],
    "faker.pyfloat(min_value=1, max_value=1000, right_digits=2)"),
  (.anyPart ["title"], "faker.sentence(nb_words=5)"),
  (.anyPart ["description", "content", "body", "text"], "'\\n\\n'.join(faker.paragraphs(nb=2))"),
  (.anyPart ["bio", "about"], "faker.paragraph()"),
  (.anyPart ["color"], "faker.hex_color()"),
  (.anyPart ["slug"], "faker.slug()"),
  (.anyPart ["token", "key", "secret"], "faker.password(length=32, special_chars=False)")]

/-- A character with its case folded away: besides the capitals, the dotted and dotless i, the long
s and the Kelvin sign match ASCII letters. -/
def foldCase (c : Char) : Char :=
  if c == 'İ' || c == 'ı' then 'i'
  else if c == 'ſ' then 's'
  else if c.toNat = 0x212A then 'k'
  else c.toLower

/-- Whether a name fits a pattern; a line end after a whole word is let through. -/
def NamePattern.fits (name : List Char) : NamePattern → Bool
  | whole word =>
    let folded := name.map foldCase
    folded == word.toList || folded == word.toList ++ ['\n']
  | anyPart parts => parts.any fun part => Text.hasPart part (name.map foldCase)

/-- The expression for a name, if it fits a pattern. -/
def ofName? (name : String) : Option String :=
  (namePatterns.find? fun pattern => pattern.1.fits name.toList).map (·.2)

/-- Kinds whose names say nothing about their data. -/
def ignoresName : FieldKind → Bool
  | .boolean | .date | .uuid | .reference => true
  | _ => false

/-! ### Bounds and kinds -/

/-- A bound in an expression: a whole number without a point, or what stands in for none. -/
def bound (v : Value) (fallback : Nat) : Outcome String := do
  if v.isNull then return toString fallback
  else if ← v.isWhole then return toString (← v.asWhole)
  else return v.shown

def ofKind : FieldKind → String
  | .uuid => "str(faker.uuid4())"
  | .string => "faker.word()"
  | .text => "'\\n\\n'.join(faker.paragraphs(nb=2))"
  | .email => "faker.email()"
  | .url => "faker.url()"
  | .integer => "faker.pyint(min_value=1, max_value=1000)"
  | .number => "faker.pyfloat(min_value=0, max_value=1000, right_digits=2)"
  | .boolean => "faker.pybool()"
  | .date => "faker.date_time_this_month()"
  | .reference => "str(faker.uuid4())"
  | .object => "\x7b\x7d"
  | .enumeration | .array => "faker.word()"

def ofBounds (kind : FieldKind) (low high : Value) : Outcome String := do
  if kind = .integer then
    return "faker.pyint(min_value=" ++ (← bound low 1) ++ ", max_value=" ++
      (← bound high 1000) ++ ")"
  else if kind = .number && !(low.isNull && high.isNull) then
    return "faker.pyfloat(min_value=" ++ (← bound low 0) ++ ", max_value=" ++ (← bound high 1000) ++
      ", right_digits=2)"
  else if kind = .string && (low.isGiven || high.isGiven) then
    return "faker.pystr(min_chars=" ++ (← bound low 1) ++ ", max_chars=" ++
      (← bound high 100) ++ ")"
  else return ofKind kind

/-- The expression for a field without parts. -/
def ofPlain (name : Value) (a : FieldAttributes) (kind : FieldKind) : Outcome String := do
  let given ← if a.hint.isGiven then ofGiven? <$> a.hint.asText else pure none
  let named ← if given.isSome || ignoresName kind then pure none else ofName? <$> name.asText
  match given.or named with
  | some expression => return expression
  | none =>
    let constraints := a.constraints.getD {}
    ofBounds kind constraints.min constraints.max

/-! ### Fields -/

mutual

/-- The expression for a field of a kind, whose name is given apart. -/
def ofField : (f : Field) → (name : Value) → (kind : FieldKind) → Outcome String
  | ⟨a, items, shape⟩, name, kind => do
    if kind = .enumeration && !(a.values.getD []).isEmpty then
      return "faker.random_element(elements=" ++ Value.quotedSequence (a.values.getD []) ++ ")"
    else if kind = .array then
      let element ← match items with
        | none => pure "faker.word()"
        | some item => ofField item (.text "item") (item.kind.getD .string)
      let constraints := a.constraints.getD {}
      return "[" ++ element ++ " for _ in range(faker.pyint(min_value=" ++
        (← bound constraints.min 1) ++ ", max_value=" ++ (← bound constraints.max 5) ++ "))]"
    else if kind = .object && !(shape.getD []).isEmpty then
      match shape with
      | some parts => return "\x7b" ++ ", ".intercalate (← ofParts parts) ++ "\x7d"
      | none => return ofKind kind
    else ofPlain name a kind
termination_by structural f => f

def ofParts : List Field → Outcome (List String)
  | [] => .ok []
  | part :: rest => do
    let expression ← ofField part part.name (part.kind.getD .string)
    return (part.name.quoted ++ ": " ++ expression) :: (← ofParts rest)
termination_by structural fs => fs

end

end EntityModel.SampleHint
