import PortfolioReports.Json.Typed
import PortfolioReports.Query.Terms

namespace PortfolioReports

structure CatalogField where
  name : String
  displayName : String
  type : FieldType
  aggregatable : Bool
  filterable : Bool
  groupable : Bool
  allowedValues : List String

structure Dataset where
  name : String
  displayName : String
  description : String
  fields : List CatalogField
  joinWith : List String

namespace CatalogField

def quantity (name displayName : String) : CatalogField :=
  ⟨name, displayName, .number, true, false, false, []⟩

def detail (name displayName : String) : CatalogField :=
  ⟨name, displayName, .string, false, true, false, []⟩

def dimension (name displayName : String) (type : FieldType) : CatalogField :=
  ⟨name, displayName, type, false, true, true, []⟩

def choice (name displayName : String) (values : List String) : CatalogField :=
  ⟨name, displayName, .string, false, true, true, values⟩

end CatalogField

def Dataset.field? (d : Dataset) (name : String) : Option CatalogField :=
  d.fields.find? fun f => f.name == name

namespace Catalog

open CatalogField

def projects : Dataset where
  name := "projects"
  displayName := "Projects"
  description := "Carbon credit projects including details, status, and metrics"
  fields :=
    [dimension "id" "Project ID" .string,
     detail "name" "Project Name",
     choice "status" "Status" ["active", "pending", "completed", "cancelled"],
     dimension "methodology" "Methodology" .string,
     dimension "region" "Region" .string,
     quantity "total_area_hectares" "Total Area (ha)",
     quantity "estimated_credits" "Estimated Credits",
     dimension "created_at" "Created Date" .date]
  joinWith := ["carbon_credits", "monitoring_data"]

def carbonCredits : Dataset where
  name := "carbon_credits"
  displayName := "Carbon Credits"
  description := "Issued and traded carbon credits"
  fields :=
    [detail "id" "Credit ID",
     dimension "project_id" "Project ID" .string,
     quantity "quantity" "Quantity",
     dimension "vintage_year" "Vintage Year" .number,
     choice "status" "Status" ["issued", "retired", "transferred", "pending"],
     quantity "price_per_credit" "Price per Credit",
     dimension "issued_at" "Issued Date" .date]
  joinWith := ["projects", "transactions"]

def transactions : Dataset where
  name := "transactions"
  displayName := "Transactions"
  description := "Financial transactions and revenue"
  fields :=
    [detail "id" "Transaction ID",
     choice "type" "Type" ["sale", "purchase", "retirement", "transfer"],
     quantity "amount" "Amount",
     dimension "currency" "Currency" .string,
     dimension "status" "Status" .string,
     dimension "created_at" "Date" .date]
  joinWith := ["carbon_credits"]

def monitoringData : Dataset where
  name := "monitoring_data"
  displayName := "Monitoring Data"
  description := "Environmental monitoring measurements"
  fields :=
    [detail "id" "Reading ID",
     dimension "project_id" "Project ID" .string,
     dimension "metric_type" "Metric Type" .string,
     quantity "value" "Value",
     detail "unit" "Unit",
     dimension "recorded_at" "Recorded Date" .date]
  joinWith := ["projects"]

def datasets : List Dataset := [projects, carbonCredits, transactions, monitoringData]

def dataset? (name : String) : Option Dataset := datasets.find? fun d => d.name == name

end Catalog

open Json

def CatalogField.toJson (f : CatalogField) : Json := .object
  [("name", .text f.name), ("display_name", .text f.displayName), ("data_type", ofWord f.type),
   ("aggregatable", .bool f.aggregatable), ("filterable", .bool f.filterable), ("groupable", .bool f.groupable),
   ("allowed_values", texts f.allowedValues)]

def Dataset.toJson (d : Dataset) : Json := .object
  [("name", .text d.name), ("display_name", .text d.displayName), ("description", .text d.description),
   ("fields", .list (d.fields.map CatalogField.toJson)), ("join_with", texts d.joinWith)]

end PortfolioReports
