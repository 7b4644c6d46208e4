/-!
# Validation issues

What is wrong with an input: a place and a kind. A place is the path of keys and positions that leads to the value.
-/

namespace PromptStudio

/-- What is wrong with a value. -/
inductive IssueKind where
  | missing
  | modelType
  | modelAttributesType
  | stringType
  | stringUnicode
  | stringTooShort
  | stringTooLong
  | listType
  | tooShort
  | dictType
  | enumeration
  | literal
  | intType
  | intParsing
  | intParsingSize
  | intFromFloat
  | finiteNumber
  | floatType
  | floatParsing
  | boolType
  | boolParsing
  | greaterThanEqual
  | lessThanEqual
  | jsonInvalid
  deriving DecidableEq, Repr

def IssueKind.name : IssueKind → String
  | missing => "missing"
  | modelType => "model_type"
  | modelAttributesType => "model_attributes_type"
  | stringType => "string_type"
  | stringUnicode => "string_unicode"
  | stringTooShort => "string_too_short"
  | stringTooLong => "string_too_long"
  | listType => "list_type"
  | tooShort => "too_short"
  | dictType => "dict_type"
  | enumeration => "enum"
  | literal => "literal_error"
  | intType => "int_type"
  | intParsing => "int_parsing"
  | intParsingSize => "int_parsing_size"
  | intFromFloat => "int_from_float"
  | finiteNumber => "finite_number"
  | floatType => "float_type"
  | floatParsing => "float_parsing"
  | boolType => "bool_type"
  | boolParsing => "bool_parsing"
  | greaterThanEqual => "greater_than_equal"
  | lessThanEqual => "less_than_equal"
  | jsonInvalid => "json_invalid"

structure Issue where
  path : List String
  kind : IssueKind
  deriving DecidableEq, Repr

end PromptStudio
