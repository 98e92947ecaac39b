import ApiGraph.Project.Basic

namespace ApiGraph.Project

namespace Demo

def param (name : String) (type : ParamType) (required : Bool) (description : String) : Param :=
  { name, type, required, description }

/-- A body field without constraints. -/
def field (name : String) (kind : FieldKind) (required : Bool) (description : String) :
    SchemaField :=
  .mk name kind required description {}

def answer (status : Nat) (description : String) : DeclaredResponse := { status, description }

def only (roles : List String) : EndpointAuth := { required := true, scheme := .jwt, roles }

def needed (name : String) (type : FieldType) : ModelField := { name, type, required := true }

/-- A required field without repetitions. -/
def distinct (name : String) (type : FieldType) : ModelField :=
  { name, type, required := true, unique := true }

def key : ModelField :=
  { name := "_id", type := .string, required := true, unique := true, isId := true }

def spot (x y : Int) : Position := ⟨.ofInt x, .ofInt y⟩

/-- An endpoint, its database node to the right of it, and the edge between them. -/
structure Served where
  name : String
  edge : String
  x : Int
  y : Int
  endpoint : Endpoint
  operation : DataOperation
  model : String

def Served.nodes (s : Served) : List Node :=
  [{ id := "ep-" ++ s.name, type := "endpoint", position := spot s.x s.y,
     content := .endpoint s.endpoint },
   { id := "db-" ++ s.name, type := "database", position := spot (s.x + 340) s.y,
     content := .database { operation := s.operation, model := s.model } }]

def Served.toEdge (s : Served) : Edge :=
  { id := s.edge, source := "ep-" ++ s.name, target := "db-" ++ s.name }

def served : List Served :=
  [{ name := "products-list", edge := "e-prod-list", x := 80, y := 50,
     operation := .list, model := "Product",
     endpoint :=
       { method := .get, path := "/api/products",
         summary := "List all products",
         description := "Get paginated list of products with optional filters",
         tags := ["Products", "Public"],
         auth := {},
         queryParams := [
            param "category" .string false "Filter by category",
            param "minPrice" .number false "Minimum price",
            param "maxPrice" .number false "Maximum price",
            param "limit" .number false "Items per page"],
         responses := [answer 200 "List of products"] } },
   { name := "products-create", edge := "e-prod-create", x := 80, y := 160,
     operation := .create, model := "Product",
     endpoint :=
       { method := .post, path := "/api/products",
         summary := "Create product",
         description := "Add new product to catalog (Admin/Manager only)",
         tags := ["Products", "Admin"],
         auth := only ["admin", "manager"],
         body := [
            field "name" .string true "Product name",
            field "description" .string false "Product description",
            field "price" .number true "Price in cents",
            field "stock" .number true "Available stock",
            field "category" .string true "Category ID"],
         responses := [
            answer 201 "Product created",
            answer 403 "Forbidden - Admin only"] } },
   { name := "products-update", edge := "e-prod-update", x := 80, y := 270,
     operation := .update, model := "Product",
     endpoint :=
       { method := .put, path := "/api/products/:id",
         summary := "Update product",
         description := "Update product details (Admin/Manager only)",
         tags := ["Products", "Admin"],
         auth := only ["admin", "manager"],
         pathParams := [param "id" .string true "Product ID"],
         body := [
            field "name" .string false "Product name",
            field "price" .number false "Price",
            field "stock" .number false "Stock"],
         responses := [answer 200 "Product updated"] } },
   { name := "orders-list", edge := "e-ord-list", x := 550, y := 50,
     operation := .list, model := "Order",
     endpoint :=
       { method := .get, path := "/api/orders",
         summary := "Get my orders",
         description := "Get orders for current user (or all for admin)",
         tags := ["Orders"],
         auth := only ["customer", "admin", "manager"],
         queryParams := [param "status" .string false "Filter: pending, paid, shipped, delivered"],
         responses := [answer 200 "List of orders"] } },
   { name := "orders-create", edge := "e-ord-create", x := 550, y := 160,
     operation := .create, model := "Order",
     endpoint :=
       { method := .post, path := "/api/orders",
         summary := "Create order",
         description := "Place a new order (Customer)",
         tags := ["Orders"],
         auth := only ["customer", "admin"],
         body := [
            field "items" (.array []) true "Array of \x7bproductId, quantity\x7d",
            field "shippingAddress" .string true "Shipping address"],
         responses := [
            answer 201 "Order created",
            answer 400 "Invalid items"] } },
   { name := "orders-status", edge := "e-ord-status", x := 550, y := 270,
     operation := .update, model := "Order",
     endpoint :=
       { method := .patch, path := "/api/orders/:id/status",
         summary := "Update order status",
         description := "Change order status (Admin/Manager only)",
         tags := ["Orders", "Admin"],
         auth := only ["admin", "manager"],
         pathParams := [param "id" .string true "Order ID"],
         body := [field "status" .string true "New status: paid, shipped, delivered"],
         responses := [answer 200 "Status updated"] } },
   { name := "users-list", edge := "e-usr-list", x := 80, y := 400,
     operation := .list, model := "User",
     endpoint :=
       { method := .get, path := "/api/users",
         summary := "List all users",
         description := "Get all registered users (Admin only)",
         tags := ["Users", "Admin"],
         auth := only ["admin"],
         queryParams := [param "role" .string false "Filter by role"],
         responses := [answer 200 "List of users"] } },
   { name := "users-register", edge := "e-usr-reg", x := 80, y := 510,
     operation := .create, model := "User",
     endpoint :=
       { method := .post, path := "/api/auth/register",
         summary := "Register user",
         description := "Create new customer account",
         tags := ["Auth", "Public"],
         auth := {},
         body := [
            field "email" .string true "Email address",
            field "password" .string true "Password",
            field "name" .string true "Full name"],
         responses := [
            answer 201 "User registered",
            answer 409 "Email already exists"] } },
   { name := "categories-list", edge := "e-cat-list", x := 550, y := 400,
     operation := .list, model := "Category",
     endpoint :=
       { method := .get, path := "/api/categories",
         summary := "List categories",
         description := "Get all product categories",
         tags := ["Categories", "Public"],
         auth := {},
         responses := [answer 200 "List of categories"] } },
   { name := "categories-create", edge := "e-cat-create", x := 550, y := 510,
     operation := .create, model := "Category",
     endpoint :=
       { method := .post, path := "/api/categories",
         summary := "Create category",
         description := "Add new product category (Admin only)",
         tags := ["Categories", "Admin"],
         auth := only ["admin"],
         body := [
            field "name" .string true "Category name",
            field "slug" .string true "URL slug"],
         responses := [answer 201 "Category created"] } }]

def models : List Model :=
  [{ name := "Product", fields := [
      key,
      needed "name" .string,
      { name := "description", type := .string },
      needed "price" .int,
      needed "stock" .int,
      needed "category" .string,
      { name := "images", type := .json },
      needed "createdAt" .dateTime] },
   { name := "User", fields := [
      key,
      distinct "email" .string,
      needed "password" .string,
      needed "name" .string,
      needed "role" .string,
      needed "createdAt" .dateTime] },
   { name := "Order", fields := [
      key,
      needed "userId" .string,
      needed "items" .json,
      needed "total" .int,
      needed "status" .string,
      needed "shippingAddress" .string,
      needed "createdAt" .dateTime] },
   { name := "Category", fields := [
      key,
      distinct "name" .string,
      distinct "slug" .string,
      { name := "productCount", type := .int }] }]

end Demo

def demo : Project where
  formatVersion := some 1
  id := "demo-ecommerce"
  name := "E-Commerce Shop API"
  description :=
    "Full-featured shop backend with Products, Orders, Users, and Categories. Role-based access: admin, manager, customer."
  nodes := Demo.served.flatMap Demo.Served.nodes
  edges := Demo.served.map Demo.Served.toEdge
  models := Demo.models

end ApiGraph.Project
