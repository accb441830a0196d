import Interpolation.Builtin.Group

/-!
# Methods on arrays and objects

Slicing, merging, searching and converting arrays and objects. Every group of the listing is a definition
of its own.
-/

namespace Interpolation.Builtin.Object

/-- Manipulation. -/
def manipulation : Group where
  key := "manipulation"
  title := "Manipulation"
  description := "Methods for manipulating arrays and objects."
  methods := [
    method "slice" "array"
      "Extracts a section of an array from start to end."
      [
        positional "array" "array" "The array to slice.",
        positional "start" "integer" "The start index."]
      [keyword "end" "integer" "The end index." none],
    method "remove" "array|object"
      "Removes an element from an array or key from a dictionary."
      [
        positional "collection" "array|object" "The collection to remove from.",
        positional "element" "any" "The element or key to remove."]
      [],
    method "add" "array|object"
      "Adds an element to an array or key-value pair to a dictionary."
      [
        positional "collection" "array|object" "The collection to add to.",
        positional "element" "any" "The element or key to add."]
      [keyword "value" "any" "The value to add if the collection is a dictionary." none],
    method "map" "array"
      "Applies a function to each element in a collection."
      [
        positional "collection" "array" "The collection to map over.",
        positional "function" "function" "The function to apply."]
      [],
    method "shuffle" "array"
      "Randomly shuffles the elements of an array."
      [positional "array" "array" "The array to shuffle."]
      [],
    method "reverse" "array"
      "Reverses the order of the elements in an array."
      [positional "array" "array" "The array to reverse."]
      [],
    method "flatten" "array"
      "Flattens a nested array."
      [positional "array" "array" "The array to flatten."]
      [],
    method "deduplicate" "array"
      "Removes duplicate elements from an array."
      [positional "array" "array" "The array to deduplicate."]
      [],
    method "join" "string"
      "Joins array elements into a string."
      [positional "array" "array" "The array to join."]
      [keyword "delimiter" "string" "The delimiter to use." (some (.string ""))],
    method "merge" "array|object"
      "Merges two or more arrays/objects."
      [positional "args" "array|object" "The arrays or objects to merge."]
      [],
    method "sort" "array"
      "Sorts the elements of an array."
      [positional "array" "array" "The array to sort."]
      [
        keyword "reverse" "boolean" "Whether to sort in reverse order." (some (.boolean false)),
        keyword "key" "function" "A function to extract a key for sorting." none],
    method "distinct" "array"
      "Removes duplicates from an array. If a key is provided, removes duplicates based on the unique values of the specified key."
      [positional "array" "array" "The array to deduplicate."]
      [keyword "key" "string" "The key to use for deduplication." none],
    method "zip_arrays" "array"
      "Combines corresponding elements from each array into tuples."
      [positional "arrays" "array" "The arrays to zip."]
      [],
    method "unzip_array" "array"
      "Separates elements of each tuple in an array of tuples into separate arrays."
      [positional "array_of_tuples" "array" "The array of tuples to unzip."]
      [],
    method "filter" "array"
      "Filters elements in a collection based on a function."
      [
        positional "collection" "array" "The collection to filter.",
        positional "function" "function" "The function to apply for filtering."]
      [],
    method "reduce" "any"
      "Applies a function of two arguments cumulatively to the items of a collection."
      [
        positional "collection" "array" "The collection to reduce.",
        positional "function" "function" "The function to apply."]
      [keyword "initializer" "any" "The initial value." none],
    method "group_by" "object"
      "Groups the elements of a collection based on the return value of the key function."
      [
        positional "collection" "array" "The collection to group.",
        positional "key_function" "function" "The function to determine the key for grouping."]
      [],
    method "partition" "array"
      "Splits the collection into two arrays: one whose elements satisfy the function and one whose elements don't."
      [
        positional "collection" "array" "The collection to partition.",
        positional "function" "function" "The function to test each element."]
      [],
    method "pluck" "array"
      "Extracts a list of values associated with a given key from a collection of dictionaries."
      [
        positional "collection" "array" "The collection to pluck from.",
        positional "key" "string" "The key to pluck."]
      [],
    method "deep_flatten" "array"
      "Flattens a nested array to a specified depth."
      [positional "array" "array" "The array to flatten."]
      [keyword "depth" "integer" "The depth to flatten to." none],
    method "update" "array|object"
      "Updates the value of a key in a dictionary or replaces an element in an array."
      [
        positional "collection" "array|object" "The collection to update.",
        positional "key" "any" "The key or index to update.",
        positional "value" "any" "The new value."]
      [],
    method "pop" "any"
      "Removes and returns an element from an array or a key-value pair from a dictionary."
      [positional "collection" "array|object" "The collection to pop from."]
      [keyword "key" "any" "The key or index to pop." none],
    method "extend" "array|object"
      "Extends a collection (array or dictionary) with elements from other collections."
      [positional "collection" "array|object" "The collection to extend."]
      [keyword "others" "array|object" "The collections to extend with." none],
    method "compact" "array"
      "Creates an array with all falsey values removed."
      [positional "collection" "array" "The collection to compact."]
      [],
    method "chunk" "array"
      "Splits an array into chunks of a specified size."
      [
        positional "array" "array" "The array to chunk.",
        positional "size" "integer" "The size of each chunk."]
      [],
    method "intersect" "array"
      "Returns an array that contains only the elements that are present in all arrays."
      [positional "arrays" "array" "The arrays to intersect."]
      [],
    method "difference" "array"
      "Returns the elements in array1 that are not in array2."
      [
        positional "array1" "array" "The first array.",
        positional "array2" "array" "The second array."]
      [],
    method "symmetric_difference" "array"
      "Returns the elements that are in either of the arrays but not in their intersection."
      [
        positional "array1" "array" "The first array.",
        positional "array2" "array" "The second array."]
      []]

/-- Conversion. -/
def conversion : Group where
  key := "conversion"
  title := "Conversion"
  description := "Methods for converting arrays and objects to different formats."
  methods := [
    method "toArray" "array"
      "Converts a collection into an array of key-value collections."
      [positional "collection" "object|iterable" "The collection to convert."]
      [],
    method "toCollection" "object"
      "Converts an array containing objects of key-value pair into a collection (dictionary)."
      [
        positional "array" "array" "The array to convert.",
        positional "key" "string" "The key in the objects to use as the key in the resulting dictionary.",
        positional "value" "string" "The key in the objects to use as the value in the resulting dictionary."]
      [],
    method "values_from_list_of_objects" "object"
      " Convert an array of dictionaries to an array of arrays of values.."
      [
        positional "dicts" "array" "The array of objects to unpack.",
        positional "keys" "array" " A list of keys to extract values for. If not provided, uses keys from the first dictionary."]
      []]

/-- Utility. -/
def utility : Group where
  key := "utility"
  title := "Utility"
  description := "General utility methods for string operations."
  methods := [
    method "contains" "boolean"
      "Checks if a collection (array or object) contains a specified element or key."
      [
        positional "collection" "array|object" "The collection to check.",
        positional "element" "any" "The element or key to check for."]
      [],
    method "first" "any"
      "Gets the first element of an array."
      [positional "array" "array" "The array to get the first element from."]
      [],
    method "last" "any"
      "Gets the last element of an array."
      [positional "array" "array" "The array to get the last element from."]
      [],
    method "length" "integer"
      "Returns the length of a collection (array or dictionary)."
      [positional "collection" "array|object" "The collection to measure."]
      [],
    method "keys" "array"
      "Returns the keys of a dictionary."
      [positional "dictionary" "object" "The dictionary to get keys from."]
      [],
    method "find" "any"
      "Returns the first element in the collection that satisfies the provided testing function."
      [
        positional "collection" "array" "The collection to search.",
        positional "function" "function" "The testing function."]
      [],
    method "every" "boolean"
      "Tests whether all elements in the collection pass the test implemented by the provided function."
      [
        positional "collection" "array" "The collection to test.",
        positional "function" "function" "The testing function."]
      [],
    method "some" "boolean"
      "Tests whether at least one element in the collection passes the test implemented by the provided function."
      [
        positional "collection" "array" "The collection to test.",
        positional "function" "function" "The testing function."]
      []]

/-- **The namespace `object`.** -/
def space : Namespace :=
  assemble "object" "ARRAY & OBJECT"
    "Helpers for manipulating and transforming arrays and objects."
    [manipulation, conversion, utility]

end Interpolation.Builtin.Object
