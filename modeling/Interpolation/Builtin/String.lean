import Interpolation.Builtin.Group

/-!
# Methods on strings and binaries

Transforming, encoding, hashing, validating and searching texts, and converting them to binaries and
back. Every group of the listing is a definition of its own.
-/

namespace Interpolation.Builtin.String

/-- Manipulation. -/
def manipulation : Group where
  key := "manipulation"
  title := "Manipulation"
  description := "Methods for manipulating strings."
  methods := [
    method "uppercase" "string"
      "Converts all characters in the input string to uppercase."
      [positional "str" "string" "The input string to be converted."]
      [],
    method "lowercase" "string"
      "Converts all characters in the input string to lowercase."
      [positional "str" "string" "The input string to be converted."]
      [],
    method "capitalize" "string"
      "Capitalizes the first character of the input string."
      [positional "str" "string" "The input string to be capitalized."]
      [],
    method "startcase" "string"
      "Capitalizes the first character of each word in the input string."
      [positional "str" "string" "The input string to be converted."]
      [],
    method "trim" "string"
      "Removes whitespace from both ends of the input string."
      [positional "str" "string" "The input string to be trimmed."]
      [],
    method "replace" "string"
      "Replaces occurrences of a substring within the input string with a new substring."
      [
        positional "str" "string" "The input string.",
        positional "old" "string" "The substring to be replaced.",
        positional "new" "string" "The new substring to replace the old one."]
      [],
    method "substring" "string"
      "Extracts a substring from the input string."
      [
        positional "str" "string" "The input string.",
        positional "start" "integer" "The starting index of the substring."]
      [keyword "end" "integer" "The ending index of the substring (optional)." none],
    method "stripHTML" "string"
      "Removes HTML tags from the input string."
      [positional "str" "string" "The input string containing HTML."]
      [],
    method "camelCase" "string"
      "Converts the input string to camelCase."
      [positional "str" "string" "The input string to be converted."]
      [],
    method "snake_case" "string"
      "Converts the input string to snake_case."
      [positional "str" "string" "The input string to be converted."]
      [],
    method "kebab-case" "string"
      "Converts the input string to kebab-case."
      [positional "str" "string" "The input string to be converted."]
      [],
    method "reverse" "string"
      "Reverses the input string."
      [positional "str" "string" "The input string to be reversed."]
      [],
    method "padStart" "string"
      "Pads the input string on the left to a specified length."
      [
        positional "str" "string" "The input string to be padded.",
        positional "length" "integer" "The total length of the resulting string."]
      [keyword "char" "string" "The character to pad with (default is space)." none],
    method "padEnd" "string"
      "Pads the input string on the right to a specified length."
      [
        positional "str" "string" "The input string to be padded.",
        positional "length" "integer" "The total length of the resulting string."]
      [keyword "char" "string" "The character to pad with (default is space)." none],
    method "repeat" "string"
      "Repeats the input string a specified number of times."
      [
        positional "str" "string" "The input string to be repeated.",
        positional "times" "integer" "The number of times to repeat the string."]
      [],
    method "titleCase" "string"
      "Converts the input string to title case."
      [positional "str" "string" "The input string to be converted."]
      [],
    method "swapcase" "string"
      "Swaps the case of each character in the input string."
      [positional "str" "string" "The input string to be converted."]
      [],
    method "center" "string"
      "Centers the input string to a specified length."
      [
        positional "str" "string" "The input string to be centered.",
        positional "length" "integer" "The total length of the resulting string."]
      [keyword "char" "string" "The character to pad with (default is space)." none],
    method "zfill" "string"
      "Pads the input string with zeros on the left to a specified width."
      [
        positional "str" "string" "The input string to be padded.",
        positional "width" "integer" "The total width of the resulting string."]
      [],
    method "removeWhitespace" "string"
      "Removes all whitespace characters from the input string."
      [positional "str" "string" "The input string to be processed."]
      [],
    method "normalizeWhitespace" "string"
      "Normalizes whitespace in the input string to a single space."
      [positional "str" "string" "The input string to be processed."]
      [],
    method "truncate" "string"
      "Truncates the input string to a specified length, adding '...' if truncated."
      [
        positional "str" "string" "The input string to be truncated.",
        positional "length" "integer" "The maximum length of the resulting string."]
      [],
    method "prefixLines" "string"
      "Adds a prefix to each line of the input string."
      [
        positional "str" "string" "The input string.",
        positional "prefix" "string" "The prefix to add to each line."]
      [],
    method "suffixLines" "string"
      "Adds a suffix to each line of the input string."
      [
        positional "str" "string" "The input string.",
        positional "suffix" "string" "The suffix to add to each line."]
      [],
    method "interleave" "string"
      "Interleaves two strings character by character."
      [
        positional "str1" "string" "The first input string.",
        positional "str2" "string" "The second input string."]
      []]

/-- Encoding/Decoding. -/
def encodingDecoding : Group where
  key := "encoding_decoding"
  title := "Encoding/Decoding"
  description := "Methods for encoding and decoding strings."
  methods := [
    method "encodeURL" "string"
      "Encodes the input string as a URL."
      [positional "str" "string" "The input string to be encoded."]
      [],
    method "decodeURL" "string"
      "Decodes a URL-encoded string."
      [positional "str" "string" "The URL-encoded string to be decoded."]
      [],
    method "escapeHTML" "string"
      "Escapes HTML characters in the input string."
      [positional "str" "string" "The input string containing HTML characters."]
      [],
    method "escapeMarkdown" "string"
      "Escapes Markdown characters in the input string."
      [positional "str" "string" "The input string containing Markdown characters."]
      [],
    method "base64_encode" "string"
      "Encodes the input string in Base64."
      [positional "str" "string" "The input string to be encoded."]
      [],
    method "base64_decode" "string"
      "Decodes a Base64-encoded string."
      [positional "str" "string" "The Base64-encoded string to be decoded."]
      [],
    method "rot13" "string"
      "Encodes the input string using ROT13."
      [positional "str" "string" "The input string to be encoded."]
      [],
    method "urlSafeBase64Encode" "string"
      "Encodes the input string in URL-safe Base64."
      [positional "str" "string" "The input string to be encoded."]
      [],
    method "urlSafeBase64Decode" "string"
      "Decodes a URL-safe Base64-encoded string."
      [positional "str" "string" "The URL-safe Base64-encoded string to be decoded."]
      []]

/-- Hashing. -/
def hashing : Group where
  key := "hashing"
  title := "Hashing"
  description := "Methods for hashing strings."
  methods := [
    method "md5" "string"
      "Generates an MD5 hash of the input string."
      [positional "str" "string" "The input string to be hashed."]
      [],
    method "sha1" "string"
      "Generates a SHA-1 hash of the input string."
      [positional "str" "string" "The input string to be hashed."]
      [],
    method "sha256" "string"
      "Generates a SHA-256 hash of the input string."
      [positional "str" "string" "The input string to be hashed."]
      [],
    method "sha512" "string"
      "Generates a SHA-512 hash of the input string."
      [positional "str" "string" "The input string to be hashed."]
      []]

/-- Binary. -/
def binary : Group where
  key := "binary"
  title := "Binary"
  description := "Methods for binary operations."
  methods := [
    method "binaryXOR" "string"
      "Performs a binary XOR operation on two binary strings."
      [
        positional "str1" "string" "The first binary string.",
        positional "str2" "string" "The second binary string."]
      [],
    method "invertBinary" "string"
      "Inverts the bits in the input binary string."
      [positional "str" "string" "The input binary string."]
      [],
    method "hexEncode" "string"
      "Encodes the input string as hexadecimal."
      [positional "str" "string" "The input string to be encoded."]
      [],
    method "hexDecode" "string"
      "Decodes a hexadecimal-encoded string."
      [positional "str" "string" "The hexadecimal-encoded string to be decoded."]
      []]

/-- Validation. -/
def validation : Group where
  key := "validation"
  title := "Validation"
  description := "Methods for validating various types of input strings."
  methods := [
    method "isNumeric" "boolean"
      "Checks if the input string is numeric."
      [positional "str" "string" "The input string to be checked."]
      [],
    method "isAlpha" "boolean"
      "Checks if the input string contains only alphabetic characters."
      [positional "str" "string" "The input string to be checked."]
      [],
    method "isAlphanumeric" "boolean"
      "Checks if the input string contains only alphanumeric characters."
      [positional "str" "string" "The input string to be checked."]
      [],
    method "isLower" "boolean"
      "Checks if the input string contains only lowercase characters."
      [positional "str" "string" "The input string to be checked."]
      [],
    method "isUpper" "boolean"
      "Checks if the input string contains only uppercase characters."
      [positional "str" "string" "The input string to be checked."]
      [],
    method "isPrintable" "boolean"
      "Checks if the input string contains only printable characters."
      [positional "str" "string" "The input string to be checked."]
      [],
    method "isValidEmail" "boolean"
      "Checks if the input string is a valid email address."
      [positional "str" "string" "The input string to be checked."]
      [],
    method "isValidURL" "boolean"
      "Checks if the input string is a valid URL."
      [positional "str" "string" "The input string to be checked."]
      [],
    method "isValidIPv4" "boolean"
      "Checks if the input string is a valid IPv4 address."
      [positional "str" "string" "The input string to be checked."]
      [],
    method "isValidIPv6" "boolean"
      "Checks if the input string is a valid IPv6 address."
      [positional "str" "string" "The input string to be checked."]
      [],
    method "isDigit" "boolean"
      "Checks if the input string contains only digits."
      [positional "str" "string" "The input string to be checked."]
      [],
    method "isDate" "boolean"
      "Checks if the input string is a valid date in the format YYYY-MM-DD."
      [positional "str" "string" "The input string to be checked."]
      [],
    method "isTime" "boolean"
      "Checks if the input string is a valid time in the format HH:MM:SS."
      [positional "str" "string" "The input string to be checked."]
      [],
    method "isDateTime" "boolean"
      "Checks if the input string is a valid datetime in the format YYYY-MM-DDTHH:MM:SS."
      [positional "str" "string" "The input string to be checked."]
      [],
    method "isHexColor" "boolean"
      "Checks if the input string is a valid hexadecimal color code."
      [positional "str" "string" "The input string to be checked."]
      [],
    method "isCreditCard" "boolean"
      "Checks if the input string is a valid credit card number."
      [positional "str" "string" "The input string to be checked."]
      [],
    method "isSSN" "boolean"
      "Checks if the input string is a valid Social Security Number (SSN)."
      [positional "str" "string" "The input string to be checked."]
      [],
    method "isPostalCode" "boolean"
      "Checks if the input string is a valid postal code."
      [positional "str" "string" "The input string to be checked."]
      []]

/-- Regular Expressions. -/
def regex : Group where
  key := "regex"
  title := "Regular Expressions"
  description := "Methods for performing operations using regular expressions."
  methods := [
    method "replaceAll" "string"
      "Replaces all occurrences of a pattern in the input string with a replacement string."
      [
        positional "str" "string" "The input string to be processed.",
        positional "pattern" "string" "The regex pattern to search for.",
        positional "repl" "string" "The replacement string."]
      [],
    method "findall" "array"
      "Finds all occurrences of a pattern in the input string."
      [
        positional "str" "string" "The input string to be searched.",
        positional "pattern" "string" "The regex pattern to search for."]
      [],
    method "splitRegex" "array"
      "Splits the input string by occurrences of a pattern."
      [
        positional "str" "string" "The input string to be split.",
        positional "pattern" "string" "The regex pattern to split by."]
      [],
    method "match" "boolean"
      "Checks if the input string matches a pattern."
      [
        positional "str" "string" "The input string to be checked.",
        positional "pattern" "string" "The regex pattern to match."]
      []]

/-- Regex Extraction. -/
def regexExtraction : Group where
  key := "regex_extraction"
  title := "Regex Extraction"
  description := "Methods for extracting specific patterns from strings using regular expressions."
  methods := [
    method "extractEmails" "array<string>"
      "Extracts all email addresses from the input string."
      [positional "str" "string" "The input string from which to extract email addresses."]
      [],
    method "extractURLs" "array<string>"
      "Extracts all URLs from the input string."
      [positional "str" "string" "The input string from which to extract URLs."]
      [],
    method "extractIPs" "array<string>"
      "Extracts all IPv4 addresses from the input string."
      [positional "str" "string" "The input string from which to extract IPv4 addresses."]
      [],
    method "extractHashtags" "array<string>"
      "Extracts all hashtags from the input string."
      [positional "str" "string" "The input string from which to extract hashtags."]
      [],
    method "extractMentions" "array<string>"
      "Extracts all mentions from the input string."
      [positional "str" "string" "The input string from which to extract mentions."]
      [],
    method "extractDates" "array<string>"
      "Extracts all dates in YYYY-MM-DD format from the input string."
      [positional "str" "string" "The input string from which to extract dates."]
      [],
    method "extractTimes" "array<string>"
      "Extracts all times in HH:MM:SS format from the input string."
      [positional "str" "string" "The input string from which to extract times."]
      [],
    method "extractNumbers" "array<string>"
      "Extracts all numbers from the input string."
      [positional "str" "string" "The input string from which to extract numbers."]
      [],
    method "extractWords" "array<string>"
      "Extracts all words from the input string."
      [positional "str" "string" "The input string from which to extract words."]
      [],
    method "extractSentences" "array<string>"
      "Extracts all sentences from the input string."
      [positional "str" "string" "The input string from which to extract sentences."]
      [],
    method "extractCurrencyValues" "array<string>"
      "Extracts all currency values from the input string."
      [positional "str" "string" "The input string from which to extract currency values."]
      [],
    method "extractPhoneNumbers" "array<string>"
      "Extracts all phone numbers from the input string."
      [positional "str" "string" "The input string from which to extract phone numbers."]
      [],
    method "extractCreditCardNumbers" "array<string>"
      "Extracts all credit card numbers from the input string."
      [positional "str" "string" "The input string from which to extract credit card numbers."]
      [],
    method "extractISBNs" "array<string>"
      "Extracts all ISBNs from the input string."
      [positional "str" "string" "The input string from which to extract ISBNs."]
      [],
    method "extractSSNs" "array<string>"
      "Extracts all SSNs from the input string."
      [positional "str" "string" "The input string from which to extract SSNs."]
      [],
    method "extractEmailDomains" "array<string>"
      "Extracts all email domains from the input string."
      [positional "str" "string" "The input string from which to extract email domains."]
      [],
    method "extractIPv4Addresses" "array<string>"
      "Extracts all IPv4 addresses from the input string."
      [positional "str" "string" "The input string from which to extract IPv4 addresses."]
      [],
    method "extractIPv6Addresses" "array<string>"
      "Extracts all IPv6 addresses from the input string."
      [positional "str" "string" "The input string from which to extract IPv6 addresses."]
      [],
    method "extractHexColors" "array<string>"
      "Extracts all hex color codes from the input string."
      [positional "str" "string" "The input string from which to extract hex color codes."]
      [],
    method "extractHTMLTags" "array<string>"
      "Extracts all HTML tags from the input string."
      [positional "str" "string" "The input string from which to extract HTML tags."]
      [],
    method "extractScriptBlocks" "array<string>"
      "Extracts all script blocks from the input string."
      [positional "str" "string" "The input string from which to extract script blocks."]
      [],
    method "extractStyleBlocks" "array<string>"
      "Extracts all style blocks from the input string."
      [positional "str" "string" "The input string from which to extract style blocks."]
      [],
    method "extractFunctionNames" "array<string>"
      "Extracts all function names from the input string."
      [positional "str" "string" "The input string from which to extract function names."]
      [],
    method "extractClassNames" "array<string>"
      "Extracts all class names from the input string."
      [positional "str" "string" "The input string from which to extract class names."]
      [],
    method "extractIDs" "array<string>"
      "Extracts all IDs from the input string."
      [positional "str" "string" "The input string from which to extract IDs."]
      [],
    method "extractURLParameters" "array of arrays"
      "Extracts all URL parameters from the input string."
      [positional "str" "string" "The input string from which to extract URL parameters."]
      [],
    method "extractPostalCodes" "array<string>"
      "Extracts all postal codes from the input string."
      [positional "str" "string" "The input string from which to extract postal codes."]
      [],
    method "extractUsernames" "array<string>"
      "Extracts all usernames from the input string."
      [positional "str" "string" "The input string from which to extract usernames."]
      [],
    method "extractGUIDs" "array<string>"
      "Extracts all GUIDs from the input string."
      [positional "str" "string" "The input string from which to extract GUIDs."]
      []]

/-- Utility. -/
def utility : Group where
  key := "utility"
  title := "Utility"
  description := "General utility methods for string operations."
  methods := [
    method "startswith" "boolean"
      "Checks if the input string starts with the specified prefix."
      [
        positional "str" "string" "The input string to be checked.",
        positional "prefix" "string" "The prefix to check for."]
      [],
    method "endswith" "boolean"
      "Checks if the input string ends with the specified suffix."
      [
        positional "str" "string" "The input string to be checked.",
        positional "suffix" "string" "The suffix to check for."]
      [],
    method "countSubstr" "integer"
      "Counts the occurrences of a substring within the input string."
      [
        positional "str" "string" "The input string to be checked.",
        positional "substr" "string" "The substring to count."]
      [],
    method "contains" "boolean"
      "Checks if the input string contains the specified substring."
      [
        positional "str" "string" "The input string to be checked.",
        positional "substr" "string" "The substring to check for."]
      [],
    method "split" "array"
      "Splits the input string by the specified separator."
      [positional "str" "string" "The input string to be split."]
      [
        keyword "sep" "string" "The separator to use for splitting. If not provided, splits by whitespace." none],
    method "indexOf" "integer"
      "Finds the first occurrence of the specified substring in the input string."
      [
        positional "str" "string" "The input string to be checked.",
        positional "substr" "string" "The substring to find."]
      [],
    method "length" "integer"
      "Returns the length of the input string."
      [positional "str" "string" "The input string."]
      []]

/-- Conversion. -/
def conversion : Group where
  key := "conversion"
  title := "Conversion"
  description := "Methods for converting strings and binary to different formats and viceversa."
  methods := [
    method "fromBinary" "string"
      "Converts a binary string to its ASCII representation."
      [positional "binaryStr" "string" "The binary string to be converted."]
      [],
    method "toBinary" "string"
      "Converts a string to its binary representation."
      [positional "str" "string" "The input string to be converted."]
      [],
    method "stringToBytes" "bytes"
      "Converts a string to a bytes object."
      [positional "str" "string" "The input string to be converted."]
      [],
    method "bytesToString" "string"
      "Converts a bytes object to a string."
      [positional "bytesObj" "bytes" "The bytes object to be converted."]
      [],
    method "toString" "string"
      "Converts any input to its string representation."
      [positional "input" "any" "The input to be converted."]
      [],
    method "stringToHex" "string"
      "Converts a string to its hexadecimal representation."
      [positional "str" "string" "The input string to be converted."]
      [],
    method "hexToString" "string"
      "Converts a hexadecimal string to its ASCII representation."
      [positional "hexStr" "string" "The hexadecimal string to be converted."]
      [],
    method "binaryToHex" "string"
      "Converts a binary string to its hexadecimal representation."
      [positional "binaryStr" "string" "The binary string to be converted."]
      [],
    method "hexToBinary" "string"
      "Converts a hexadecimal string to its binary representation."
      [positional "hexStr" "string" "The hexadecimal string to be converted."]
      [],
    method "binaryToDecimal" "integer"
      "Converts a binary string to its decimal representation."
      [positional "binaryStr" "string" "The binary string to be converted."]
      [],
    method "decimalToBinary" "string"
      "Converts a decimal number to its binary representation."
      [positional "decimal" "integer" "The decimal number to be converted."]
      [],
    method "binaryToASCII" "string"
      "Converts a binary string to its ASCII representation."
      [positional "binaryStr" "string" "The binary string to be converted."]
      [],
    method "ASCIIToBinary" "string"
      "Converts an ASCII string to its binary representation."
      [positional "asciiStr" "string" "The ASCII string to be converted."]
      [],
    method "binaryToUUID" "string"
      "Converts a binary string to its UUID representation."
      [positional "binaryStr" "string" "The binary string to be converted."]
      [],
    method "UUIDToBinary" "string"
      "Converts a UUID string to its binary representation."
      [positional "uuidStr" "string" "The UUID string to be converted."]
      []]

/-- Binary Utilities. -/
def binaryUtilities : Group where
  key := "binary_utilities"
  title := "Binary Utilities"
  description := "Methods for performing various binary operations."
  methods := [
    method "binaryAdd" "string"
      "Adds two binary numbers."
      [
        positional "x" "string" "The first binary number.",
        positional "y" "string" "The second binary number."]
      [],
    method "binarySubtract" "string"
      "Subtracts the second binary number from the first."
      [
        positional "x" "string" "The first binary number.",
        positional "y" "string" "The second binary number."]
      [],
    method "binaryMultiply" "string"
      "Multiplies two binary numbers."
      [
        positional "x" "string" "The first binary number.",
        positional "y" "string" "The second binary number."]
      [],
    method "binaryDivide" "string"
      "Divides the first binary number by the second."
      [
        positional "x" "string" "The first binary number.",
        positional "y" "string" "The second binary number."]
      [],
    method "binaryShiftLeft" "string"
      "Shifts the binary number to the left by a specified number of positions."
      [
        positional "x" "string" "The binary number.",
        positional "n" "integer" "The number of positions to shift."]
      [],
    method "binaryShiftRight" "string"
      "Shifts the binary number to the right by a specified number of positions."
      [
        positional "x" "string" "The binary number.",
        positional "n" "integer" "The number of positions to shift."]
      [],
    method "binaryAND" "string"
      "Performs a bitwise AND operation on two binary numbers."
      [
        positional "x" "string" "The first binary number.",
        positional "y" "string" "The second binary number."]
      [],
    method "binaryOR" "string"
      "Performs a bitwise OR operation on two binary numbers."
      [
        positional "x" "string" "The first binary number.",
        positional "y" "string" "The second binary number."]
      [],
    method "binaryNOT" "string"
      "Performs a bitwise NOT operation on a binary number."
      [positional "x" "string" "The binary number."]
      [],
    method "validateBinary" "boolean"
      "Validates if a string is a binary number."
      [positional "x" "string" "The string to validate."]
      [],
    method "countBits" "integer"
      "Counts the number of '1' bits in a binary number."
      [positional "x" "string" "The binary number."]
      [],
    method "parityCheck" "boolean"
      "Checks if the number of '1' bits in a binary number is even."
      [positional "x" "string" "The binary number."]
      [],
    method "toggleBits" "string"
      "Toggles all bits in a binary number."
      [positional "x" "string" "The binary number."]
      [],
    method "binaryComplement" "string"
      "Computes the complement of a binary number."
      [positional "x" "string" "The binary number."]
      [],
    method "binaryReduceXOR" "integer"
      "Performs a reduction XOR operation on a list of binary numbers."
      [positional "x" "string" "A space-separated string of binary numbers."]
      []]

/-- **The namespace `string`.** -/
def space : Namespace :=
  assemble "string" "STRING & BINARY"
    "Helpers for string and binary tranformation, validation and manipulation."
    [
      manipulation,
      encodingDecoding,
      hashing,
      binary,
      validation,
      regex,
      regexExtraction,
      utility,
      conversion,
      binaryUtilities]

end Interpolation.Builtin.String
