import Interpolation.Builtin.Group

/-!
# Methods on dates and times

Computing with dates and times, and their formatting and parsing. Every group of the listing is a
definition of its own.
-/

namespace Interpolation.Builtin.Date

/-- Manipulation & Transformation. -/
def manipulation : Group where
  key := "manipulation"
  title := "Manipulation & Transformation"
  description := "Methods fortranforming an dmanipulating datetime."
  methods := [
    method "addSeconds" "datetime"
      "Adds a specified number of seconds to a datetime object."
      [
        positional "datetime_obj" "datetime" "The datetime object to be modified.",
        positional "seconds" "float" "The number of seconds to add."]
      [],
    method "addMinutes" "datetime"
      "Adds a specified number of minutes to a datetime object."
      [
        positional "datetime_obj" "datetime" "The datetime object to be modified.",
        positional "minutes" "float" "The number of minutes to add."]
      [],
    method "addHours" "datetime"
      "Adds a specified number of hours to a datetime object."
      [
        positional "datetime_obj" "datetime" "The datetime object to be modified.",
        positional "hours" "float" "The number of hours to add."]
      [],
    method "addDays" "datetime"
      "Adds a specified number of days to a datetime object."
      [
        positional "datetime_obj" "datetime" "The datetime object to be modified.",
        positional "days" "float" "The number of days to add."]
      [],
    method "addMonths" "datetime"
      "Adds a specified number of months to a datetime object."
      [
        positional "datetime_obj" "datetime" "The datetime object to be modified.",
        positional "months" "float" "The number of months to add."]
      [],
    method "addYears" "datetime"
      "Adds a specified number of years to a datetime object."
      [
        positional "datetime_obj" "datetime" "The datetime object to be modified.",
        positional "years" "float" "The number of years to add."]
      [],
    method "setSecond" "datetime"
      "Sets the second component of a datetime object."
      [
        positional "datetime_obj" "datetime" "The datetime object to be modified.",
        positional "second" "int" "The second value to set."]
      [],
    method "setMinute" "datetime"
      "Sets the minute component of a datetime object."
      [
        positional "datetime_obj" "datetime" "The datetime object to be modified.",
        positional "minute" "int" "The minute value to set."]
      [],
    method "setHour" "datetime"
      "Sets the hour component of a datetime object."
      [
        positional "datetime_obj" "datetime" "The datetime object to be modified.",
        positional "hour" "int" "The hour value to set."]
      [],
    method "setDay" "datetime"
      "Sets the day component of a datetime object."
      [
        positional "datetime_obj" "datetime" "The datetime object to be modified.",
        positional "day" "int" "The day value to set."]
      [],
    method "setDate" "datetime"
      "Sets the date (year, month, day) of a datetime object."
      [
        positional "datetime_obj" "datetime" "The datetime object to be modified.",
        positional "date" "datetime" "The date value to set."]
      [],
    method "setMonth" "datetime"
      "Sets the month component of a datetime object."
      [
        positional "datetime_obj" "datetime" "The datetime object to be modified.",
        positional "month" "int" "The month value to set."]
      [],
    method "setYear" "datetime"
      "Sets the year component of a datetime object."
      [
        positional "datetime_obj" "datetime" "The datetime object to be modified.",
        positional "year" "int" "The year value to set."]
      []]

/-- Formatting & Parsing. -/
def formatting : Group where
  key := "formatting"
  title := "Formatting & Parsing"
  description := "Methods for formatting datetime objects into strings and parsing strings into datetime objects."
  methods := [
    method "formatDate" "string"
      "Formats a datetime object into a string according to a specified format."
      [
        positional "datetime_obj" "datetime" "The datetime object to be formatted.",
        positional "format_str" "string" "The format string."]
      [],
    method "parseDate" "datetime"
      "Parses a datetime string into a datetime object using multiple formats."
      [positional "date_str" "string" "The datetime string to be parsed."]
      []]

/-- Utility. -/
def utility : Group where
  key := "utility"
  title := "Utility"
  description := "Methods for parsing datetime strings and ensuring valid datetime objects."
  methods := [
    method "timestamp" "float"
      "Returns the current timestamp."
      []
      [],
    method "now" "datetime"
      "Returns the current datetime."
      []
      []]

/-- **The namespace `date`.** -/
def space : Namespace :=
  assemble "date" "DATE AND TIME"
    "Helpers for datetime tranformation, validation and manipulation."
    [manipulation, formatting, utility]

end Interpolation.Builtin.Date
